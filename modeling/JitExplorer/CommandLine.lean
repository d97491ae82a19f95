/-
**The command line.**

A command line names an input file and an output path, with options anywhere among them.  Three
options are keys that take a value, either attached with an equals sign or as the next token; two
are flags.  A double dash ends the options: it and everything behind it is left over.

Tokens are sorted before anything is decided.  A token that starts with a dash is an option if its
spelling says so; else it may still be an argument, namely if it is a single dash, a negative
number, or holds a space.  Only arguments may be the value of a key.  What the options leave over is
sorted once more by its first character: a dash makes it an unknown argument.

Main definitions:

* `CommandLine.Token`, `CommandLine.classify` — the kinds of tokens;
* `CommandLine.readTokens` — what the options say and what they leave over, or the first fault;
* `Arguments`, `CommandLine.Request` — what a command line asks for;
* `CommandLine.parse` — the request of a command line;
* `CommandLine.Request.printed`, `CommandLine.Request.continuation` — what is printed for a
  request, and how it goes on.

Main results:

* `CommandLine.readTokens_dashes` — nothing behind a double dash is read.
-/

import JitExplorer.Failure
import JitExplorer.Text.Blank
import JitExplorer.Text.Search

set_option autoImplicit false

namespace JitExplorer

/-- What a run was asked to do.  The format is an empty sequence if its key was given no value. -/
structure Arguments where
  format : Datum
  debugInfo : DebugInfo
  optimize : Bool
  verbose : Bool
  inputFile : String
  outputPath : String
  deriving DecidableEq, Repr

/-- The settings that the arguments select. -/
def Arguments.stageOptions (arguments : Arguments) : StageOptions where
  optimize := arguments.optimize
  debugInfo := arguments.debugInfo

namespace CommandLine

/-! ### Options -/

/-- The options that take a value. -/
inductive Key where
  | format
  | debugInfo
  | optimize
  deriving DecidableEq, Repr

/-- The spelling of a key. -/
def Key.spelling : Key → String
  | .format => "--format"
  | .debugInfo => "--debuginfo"
  | .optimize => "--optimize"

/-- The options that take no value. -/
inductive Flag where
  | verbose
  | help
  deriving DecidableEq, Repr

/-- A flag as it is named in messages. -/
def Flag.name : Flag → String
  | .verbose => "--verbose"
  | .help => "-h/--help"

/-- An option of either sort. -/
inductive Switch where
  | key (key : Key)
  | flag (flag : Flag)
  deriving DecidableEq, Repr

/-- The spelling of the help flag as a single letter. -/
def helpLetter : List Char := "-h".toList

/-- The option that a token spells. -/
def switchOf? (s : List Char) : Option Switch :=
  if s = "--format".toList then some (.key .format)
  else if s = "--debuginfo".toList then some (.key .debugInfo)
  else if s = "--optimize".toList then some (.key .optimize)
  else if s = "--verbose".toList then some (.flag .verbose)
  else if s = helpLetter || s = "--help".toList then some (.flag .help)
  else none

/-! ### Sorting tokens -/

/-- The kinds of tokens in front of a double dash. -/
inductive Token where
  /-- An argument, which may be the value of a key. -/
  | argument
  /-- A key, with its value if one is attached. -/
  | key (key : Key) (attached : Option (List Char))
  /-- A flag, with the value that is attached to it. -/
  | flag (flag : Flag) (attached : Option (List Char))
  /-- A run of single-letter flags that starts with the help flag, with the letters behind it; an
  equals sign may stand between them. -/
  | letters (rest : List Char)
  /-- No option and no argument. -/
  | unknown
  deriving DecidableEq, Repr

/-- A switch as a token. -/
def Switch.token (attached : Option (List Char)) : Switch → Token
  | .key k => .key k attached
  | .flag f => .flag f attached

/-- A text consists of at least one digit. -/
def isNumeral (s : List Char) : Bool :=
  !s.isEmpty && s.all Text.isDigit

/-- A text is a numeral, or digits, a point and a numeral. -/
def isDecimal (s : List Char) : Bool :=
  isNumeral s ||
    match s.dropWhile Text.isDigit with
    | '.' :: fraction => isNumeral fraction
    | _ => false

/-- A text without the newline at its end, if it has one. -/
def dropFinalNewline (s : List Char) : List Char :=
  if s.getLast? = some '\n' then s.dropLast else s

/-- What stands behind the dash of a token is a number; a newline may end it. -/
def isNegativeNumber (behindDash : List Char) : Bool :=
  isDecimal behindDash || isDecimal (dropFinalNewline behindDash)

/-- The option with an attached value that a token spells: what stands in front of its first equals
sign is an option.  A value that is attached to the letter of the help flag is a run of letters. -/
def attachedSwitch? (s : List Char) : Option Token :=
  let front := s.takeWhile (· != '=')
  match s.dropWhile (· != '=') with
  | [] => none
  | _ :: value =>
      if front = helpLetter then some (.letters value)
      else (switchOf? front).map (Switch.token (some value))

/-- What stands behind the help flag in a run of single-letter flags. -/
def lettersBehindHelp? : List Char → Option (List Char)
  | '-' :: 'h' :: rest => some rest
  | _ => none

/-- The kind of a token that starts with a dash and spells no option. -/
def classifyDashed (behindDash : List Char) : Token :=
  if behindDash.isEmpty || isNegativeNumber behindDash || behindDash.contains ' ' then .argument
  else .unknown

/-- The kind of a token. -/
def classify : List Char → Token
  | [] => .argument
  | c :: s =>
      if c = '-' then
        match switchOf? (c :: s), attachedSwitch? (c :: s), lettersBehindHelp? (c :: s) with
        | some switch, _, _ => switch.token none
        | none, some token, _ => token
        | none, none, some rest => .letters rest
        | none, none, none => classifyDashed s
      else .argument

theorem classify_of_ne_dash {c : Char} (s : List Char) (h : c ≠ '-') :
    classify (c :: s) = .argument := by
  simp [classify, h]

/-- The token that ends the options. -/
def dashes : String := "--"

/-- A token may be the value of a key. -/
def isValue (s : String) : Bool :=
  s != dashes && classify s.toList == .argument

/-! ### Reading the options -/

/-- Why the options cannot be read. -/
inductive Fault where
  /-- A key at the end, or in front of something that is no argument. -/
  | valueExpected (key : Key)
  /-- A value attached to a flag. -/
  | valueIgnored (flag : Flag) (value : List Char)
  deriving DecidableEq, Repr

/-- The wording of a fault. -/
def Fault.message : Fault → String
  | .valueExpected key => "argument " ++ key.spelling ++ ": expected one argument"
  | .valueIgnored flag value =>
      "argument " ++ flag.name ++ ": ignored explicit argument " ++
        String.ofList (Text.quote value)

/-- What the options say and what they leave over.  A key that was not given has no value at all; a
key that was given a double dash has an absent value. -/
structure Reading where
  format : Option (Option String) := none
  debugInfo : Option (Option String) := none
  optimize : Option (Option String) := none
  verbose : Bool := false
  help : Bool := false
  rest : List String := []
  deriving DecidableEq, Repr

/-- The value that a key takes from a text: a double dash counts as none. -/
def valueOf (s : String) : Option String :=
  if s = dashes then none else some s

/-- A key is given a value; the last one counts. -/
def Reading.set (reading : Reading) (key : Key) (value : Option String) : Reading :=
  match key with
  | .format => { reading with format := some value }
  | .debugInfo => { reading with debugInfo := some value }
  | .optimize => { reading with optimize := some value }

/-- A flag is given. -/
def Reading.raise (reading : Reading) : Flag → Reading
  | .verbose => { reading with verbose := true }
  | .help => { reading with help := true }

/-- Tokens are left over. -/
def Reading.leave (reading : Reading) (tokens : List String) : Reading :=
  { reading with rest := reading.rest ++ tokens }

/-- The fault of the letters behind the help flag, if they are not all help flags. -/
def lettersFault? : List Char → Option Fault
  | [] => some (.valueIgnored .help [])
  | c :: s =>
      if c = 'h' then
        match s with
        | [] => none
        | _ :: _ => lettersFault? s
      else some (.valueIgnored .help (c :: s))

/-- **What the tokens of a command line say,** or the first fault in them. -/
def readTokens (reading : Reading) : List String → Except Fault Reading
  | [] => .ok reading
  | t :: ts =>
      if t = dashes then .ok (reading.leave (t :: ts))
      else
        match classify t.toList with
        | .argument => readTokens (reading.leave [t]) ts
        -- What is unknown is complained about only once all tokens were read.
        | .unknown => readTokens (reading.leave [t]) ts
        | .flag flag none => readTokens (reading.raise flag) ts
        | .flag flag (some value) => .error (.valueIgnored flag value)
        | .letters rest =>
            match lettersFault? rest with
            | none => readTokens (reading.raise .help) ts
            | some fault => .error fault
        | .key key (some value) =>
            readTokens (reading.set key (valueOf (String.ofList value))) ts
        | .key key none =>
            match ts with
            | [] => .error (.valueExpected key)
            | v :: ts =>
                if isValue v then readTokens (reading.set key (valueOf v)) ts
                else .error (.valueExpected key)

/-- Nothing behind a double dash is read. -/
theorem readTokens_dashes (reading : Reading) (ts : List String) :
    readTokens reading (dashes :: ts) = .ok (reading.leave (dashes :: ts)) := by
  simp [readTokens]

/-! ### Requests -/

/-- Something that is wrong with a command line. -/
inductive Complaint where
  | fault (fault : Fault)
  | unknown (token : String)
  | positionals (given : List String)
  deriving DecidableEq, Repr

/-- The wording of a complaint. -/
def Complaint.message : Complaint → String
  | .fault f => f.message
  | .unknown token => "Unknown argument " ++ token
  | .positionals given => "Expected two position args " ++ Text.quotedList given

/-- What a command line asks for. -/
inductive Request where
  /-- A run. -/
  | run (arguments : Arguments)
  /-- The usage text, possibly after complaints. -/
  | help (complaints : List Complaint)
  /-- Nothing that can be done. -/
  | rejected (complaints : List Complaint)
  deriving DecidableEq, Repr

/-- A token that is left over is a positional one unless it starts with a dash. -/
def isPositional (s : String) : Bool :=
  s.toList.head? != some '-'

/-- A truth value that is written out, in letters of either case; only ASCII letters matter, for no
other character is the capital of a letter of these words. -/
def readBool? (s : List Char) : Option Bool :=
  let lowered := (Text.trim s).map Char.toLower
  if lowered = "true".toList || lowered = "1".toList then some true
  else if lowered = "false".toList || lowered = "0".toList then some false
  else none

/-- The failure of an optimization key without a value. -/
def optimizeWithoutValue : Failure :=
  .ordinary "AttributeError" "'list' object has no attribute 'strip'"

/-- The optimization setting: on, unless it is written out as off. -/
def readOptimize : Option (Option String) → Except Failure Bool
  | none => .ok true
  | some none => .error optimizeWithoutValue
  | some (some s) => .ok ((readBool? s.toList).getD true)

/-- The debug information level: none if it is written out so, else the default. -/
def readDebugInfo (value : Option (Option String)) : DebugInfo :=
  if value = some (some "none") then .none else .default

/-- The format that is asked for: native code unless it is named, and an empty sequence if the key
has no value. -/
def readFormat : Option (Option String) → Datum
  | none => .text Stage.native.text
  | some none => .sequence []
  | some (some s) => .text s

/-- The request that a reading of the options amounts to. -/
def Reading.request (reading : Reading) : Except Failure Request :=
  let complaints := (reading.rest.filter fun t => !isPositional t).map Complaint.unknown
  let positionals := reading.rest.filter isPositional
  -- Who asks for help is not told what else is wrong with the positional tokens.
  if reading.help then .ok (.help complaints)
  else
    match positionals, complaints with
    | [inputFile, outputPath], [] =>
        (readOptimize reading.optimize).map fun optimize =>
          .run
            { format := readFormat reading.format
              debugInfo := readDebugInfo reading.debugInfo
              optimize
              verbose := reading.verbose
              inputFile
              outputPath }
    | [_, _], complaints => .ok (.rejected complaints)
    | positionals, complaints => .ok (.rejected (complaints ++ [.positionals positionals]))

/-- A command line without the double dash at its start, if it has one. -/
def dropLeadingDashes : List String → List String
  | [] => []
  | t :: ts => if t = dashes then ts else t :: ts

/-- **The request of a command line.** -/
def parse (tokens : List String) : Except Failure Request :=
  match readTokens {} (dropLeadingDashes tokens) with
  | .error fault => .ok (.rejected [.fault fault])
  | .ok reading => reading.request

/-! ### What is printed -/

/-- The usage text. -/
def usage : String :=
  "Numba wrapper.\n\nUsage:\n" ++
  "  numba-explorer <input_code> <output_path> [--format=<fmt>] [--debuginfo=<info>] " ++
  "[--optimize=<opt>] [--verbose]\n" ++
  "  numba-explorer --help\n\nOptions:\n" ++
  "  -h --help                Show this screen.\n" ++
  "  --format=<fmt>           Set output format (One of \"lowered\", \"typed\", \"warntype\", " ++
  "\"llvm\", \"llvm-module\", \"native\") [default: native]\n" ++
  "  --debuginfo=<info>       Controls amount of generated metadata (One of \"default\", " ++
  "\"none\") [default: default]\n" ++
  "  --optimize=\x7btrue*|false\x7d Controls whether \"llvm\" or \"typed\" output should be " ++
  "optimized or not [default: true]\n" ++
  "  --verbose                Prints some process info\n"

/-- The complaints of a request. -/
def Request.complaints : Request → List Complaint
  | .run _ => []
  | .help complaints => complaints
  | .rejected complaints => complaints

/-- What is printed for a request: its complaints, and the usage text unless it is a run. -/
def Request.printed : Request → String
  | .run _ => ""
  | .help complaints => Text.writeLines (complaints.map Complaint.message ++ [usage])
  | .rejected complaints => Text.writeLines (complaints.map Complaint.message ++ [usage])

/-! ### What follows -/

/-- How a request goes on once everything was printed. -/
inductive Continuation where
  /-- The run is done. -/
  | proceed (arguments : Arguments)
  /-- The program ends with an exit code. -/
  | exit (code : Nat)
  /-- The request is an error. -/
  | refuse (error : ExplorerError)
  deriving DecidableEq, Repr

/-- **How a request goes on.**  Asking for help is a success unless there were complaints. -/
def Request.continuation : Request → Continuation
  | .run arguments => .proceed arguments
  | .help complaints => .exit (if complaints.isEmpty then 0 else 1)
  | .rejected complaints => .refuse (.arguments (complaints.map Complaint.message))

end CommandLine

end JitExplorer
