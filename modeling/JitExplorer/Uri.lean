/-
**Document addresses.**

The editor names a document by its URI.  A URI is cut into its scheme, its authority and its path;
the query and the fragment do not matter here.  Blank and control characters in front of it do not
count, nor do tabs and line ends anywhere in it.  What stands in front of the first colon is the
scheme if it starts with a letter and consists of the characters that a scheme may have.

An authority is refused if it has one sort of square brackets only, if its brackets do not hold an
address of version 6 or later, or if one of its characters is another spelling of a delimiter.

Main definitions:

* `Uri`, `Uri.split` — the parts of a URI that matter;
* `Uri.filePath` — the path of a document that lies in a file.
-/

import JitExplorer.Failure
import JitExplorer.HostAddress
import JitExplorer.Text.CodeRange
import JitExplorer.Text.Percent
import JitExplorer.Text.Search

set_option autoImplicit false

namespace JitExplorer

/-- The parts of a URI that matter, as they are written; the scheme is in small letters. -/
structure Uri where
  scheme : List Char
  authority : List Char
  path : List Char
  deriving DecidableEq, Repr

namespace Uri

/-- Why a URI cannot be cut. -/
inductive Fault where
  /-- The authority has one sort of square brackets only, or something around them. -/
  | misplacedBracket
  /-- The brackets hold an address of version 4. -/
  | version4InBrackets
  /-- The brackets hold something like an address of a later version, which is none. -/
  | malformedLater
  /-- The brackets hold no address. -/
  | noAddress (host : List Char)
  /-- A character of the authority is another spelling of a delimiter. -/
  | disguisedDelimiter (authority : List Char)
  deriving DecidableEq, Repr

/-- The wording of a fault. -/
def Fault.message : Fault → String
  | .misplacedBracket => "Invalid IPv6 URL"
  | .version4InBrackets => "An IPv4 address cannot be in brackets"
  | .malformedLater => "IPvFuture address is invalid"
  | .noAddress host =>
      String.ofList (Text.quote host) ++ " does not appear to be an IPv4 or IPv6 address"
  | .disguisedDelimiter authority =>
      "netloc '" ++ String.ofList authority ++
        "' contains invalid characters under NFKC normalization"

/-- A fault as a failure. -/
def Fault.toFailure (fault : Fault) : Failure :=
  .ordinary "ValueError" fault.message

/-! ### Cutting -/

/-- The control characters and the space. -/
def isControlOrSpace (c : Char) : Bool :=
  c.toNat ≤ 0x20

/-- The characters that are taken out of a URI wherever they stand. -/
def isIgnored (c : Char) : Bool :=
  c == '\t' || c == '\r' || c == '\n'

/-- The characters of a URI that count. -/
def relevant (s : List Char) : List Char :=
  (s.dropWhile isControlOrSpace).filter fun c => !isIgnored c

/-- The characters that a scheme may have. -/
def isSchemeChar (c : Char) : Bool :=
  c.isAlphanum || c == '+' || c == '-' || c == '.'

/-- A text may be a scheme: it starts with a letter. -/
def isScheme (s : List Char) : Bool :=
  match s with
  | [] => false
  | c :: s => c.isAlpha && s.all isSchemeChar

/-- The scheme of a URI and what stands behind its colon; without a scheme, the whole text. -/
def splitScheme (s : List Char) : List Char × List Char :=
  let front := s.takeWhile (· != ':')
  match s.dropWhile (· != ':') with
  | _ :: rest => if isScheme front then (front.map Char.toLower, rest) else ([], s)
  | [] => ([], s)

/-- The characters that end an authority. -/
def endsAuthority (c : Char) : Bool :=
  c == '/' || c == '?' || c == '#'

/-- The authority at the start of a text and what stands behind it. -/
def splitAuthority (s : List Char) : List Char × List Char :=
  match Text.dropPrefix? "//".toList s with
  | some rest =>
      (rest.takeWhile fun c => !endsAuthority c, rest.dropWhile fun c => !endsAuthority c)
  | none => ([], s)

/-- The characters that compatibility normalization spells with one of the delimiters
`/`, `?`, `#`, `@` and `:`. -/
def disguisedDelimiters : List (Nat × Nat) :=
  [(0x2047, 0x2049), (0x2100, 0x2101), (0x2105, 0x2106), (0x2A74, 0x2A74), (0xFE13, 0xFE13),
   (0xFE16, 0xFE16), (0xFE55, 0xFE56), (0xFE5F, 0xFE5F), (0xFE6B, 0xFE6B), (0xFF03, 0xFF03),
   (0xFF0F, 0xFF0F), (0xFF1A, 0xFF1A), (0xFF1F, 0xFF20)]

/-- A character is another spelling of a delimiter. -/
def isDisguised (c : Char) : Bool :=
  Text.inRanges disguisedDelimiters c.toNat

/-- The authority without the user in front of its last at sign. -/
def withoutUser (authority : List Char) : List Char :=
  (authority.reverse.takeWhile (· != '@')).reverse

/-- The host that an authority with brackets names: what they hold.  Nothing may stand in front of
them, and only a port behind them.  If the user has taken the opening bracket, the host ends at the
first colon. -/
def bracketHost (authority : List Char) : Except Fault (List Char) :=
  let place := withoutUser authority
  match place.dropWhile (· != '[') with
  | [] => .ok (place.takeWhile (· != ':'))
  | _ :: inside =>
      if place.head? != some '[' then .error .misplacedBracket
      else
        let host := inside.takeWhile (· != ']')
        match inside.dropWhile (· != ']') with
        | _ :: c :: _ => if c = ':' then .ok host else .error .misplacedBracket
        | _ => .ok host

/-- The fault of a host in brackets, if it has one. -/
def hostFault? (host : List Char) : Option Fault :=
  match host with
  | c :: s =>
      if c = HostAddress.versionLetter then
        if HostAddress.isLater s then none else some .malformedLater
      else if HostAddress.isVersion4 host then some .version4InBrackets
      else if HostAddress.isVersion6 host then none
      else some (.noAddress host)
  | [] => some (.noAddress host)

/-- The fault of the brackets of an authority, if they have one. -/
def bracketFault? (authority : List Char) : Option Fault :=
  if authority.contains '[' != authority.contains ']' then some .misplacedBracket
  else if authority.contains '[' then
    match bracketHost authority with
    | .ok host => hostFault? host
    | .error fault => some fault
  else none

/-- The fault of an authority, if it has one; that of its brackets comes first. -/
def authorityFault? (authority : List Char) : Option Fault :=
  match bracketFault? authority with
  | some fault => some fault
  | none => if authority.any isDisguised then some (.disguisedDelimiter authority) else none

/-- A path without the query and the fragment behind it. -/
def cutPath (s : List Char) : List Char :=
  (s.takeWhile (· != '#')).takeWhile (· != '?')

/-- **The parts of a URI,** or the reason why it has none. -/
def split (s : List Char) : Except Fault Uri :=
  let (scheme, rest) := splitScheme (relevant s)
  let (authority, rest) := splitAuthority rest
  -- The query and the fragment are cut off without a look at them.
  match authorityFault? authority with
  | some fault => .error fault
  | none => .ok { scheme, authority, path := cutPath rest }

/-! ### Paths -/

/-- The scheme of documents that lie in files. -/
def fileScheme : List Char := "file".toList

/-- A path without its slash if a drive letter follows it. -/
def dropDriveSlash (path : List Char) : List Char :=
  match path with
  | '/' :: c :: ':' :: rest => c :: ':' :: rest
  | path => path

/-- The path of a document that lies in a file, and nothing for any other document. -/
def localPath (uri : Uri) : List Char :=
  if uri.scheme = fileScheme then dropDriveSlash (Text.Percent.decode uri.path) else []

/-- **The path of the document with the given URI.** -/
def filePath (uri : String) : Except Failure String :=
  match split uri.toList with
  | .ok parts => .ok (String.ofList parts.localPath)
  | .error fault => .error fault.toFailure

end Uri

end JitExplorer
