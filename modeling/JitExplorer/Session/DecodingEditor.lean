/-
**A library that decodes URIs.**

One way in which the editor's library may keep documents: it decodes a URI, and keeps the document
by what comes out.  So two documents may have one key, and a document need not be kept by its own
URI.

Main definitions:

* `Uri.placePath` — the path from which such a library reads a document;
* `Editor.decoding` — the library.
-/

import JitExplorer.Session

set_option autoImplicit false

namespace JitExplorer

namespace Uri

/-- The path from which a document is read: an authority is kept in front of it, and a drive letter
is written small and without a slash. -/
def workspacePath (uri : Uri) : List Char :=
  let authority := Text.Percent.decode uri.authority
  let path := Text.Percent.decode uri.path
  if !authority.isEmpty && !path.isEmpty && uri.scheme == fileScheme then
    "//".toList ++ authority ++ path
  else
    match path with
    | '/' :: c :: ':' :: rest => if c.isAlpha then c.toLower :: ':' :: rest else path
    | path => path

/-- The path from which the document with a URI is read. -/
def placePath (uri : String) : Except Failure String :=
  match split uri.toList with
  | .ok parts => .ok (String.ofList parts.workspacePath)
  | .error fault => .error fault.toFailure

theorem placePath_eq_ok_iff (uri : String) :
    (∃ place, placePath uri = .ok place) ↔ Session.HasPath uri := by
  unfold Session.HasPath filePath placePath
  cases split uri.toList with
  | ok parts => exact ⟨fun _ => ⟨_, rfl⟩, fun _ => ⟨_, rfl⟩⟩
  | error fault => simp

end Uri

namespace Editor

open Session

/-- The key of a document: its decoded URI. -/
def decodedKey (uri : String) : String :=
  Text.Percent.decodeText uri

/-- A document is put under its decoded URI. -/
def putDecoded (uri text : String) (documents : List Document) :
    Except Failure (List Document) := do
  let _ ← Uri.placePath uri
  return enterDocument (decodedKey uri) text documents

/-- A document is found under its decoded URI. -/
def findDecoded (uri : String) (documents : List Document) : Except Failure (Option Document) :=
  match documents.find? fun document => document.uri == decodedKey uri with
  | some document => .ok (some document)
  | none => do
      let _ ← Uri.placePath uri
      return none

/-- **The library that keeps documents by their decoded URIs.** -/
@[reducible] def decoding : Editor where
  key := decodedKey
  put := putDecoded
  remove uri documents := documents.filter fun document => document.uri != decodedKey uri
  find := findDecoded
  places := Hint.protocolPlaces
  put_of_hasPath uri text documents hpath := by
    obtain ⟨place, hplace⟩ := (Uri.placePath_eq_ok_iff uri).2 hpath
    simp only [putDecoded, hplace]
    rfl
  put_of_not_hasPath uri text documents hpath := by
    cases hplace : Uri.placePath uri with
    | ok place => exact absurd ((Uri.placePath_eq_ok_iff uri).1 ⟨place, hplace⟩) hpath
    | error failure => exact ⟨failure, by simp only [putDecoded, hplace]; rfl⟩
  remove_eq _ _ := rfl
  find_of_open uri documents document hopen := by
    simp only [findDecoded, hopen]
  find_of_closed uri documents hclosed hpath := by
    obtain ⟨place, hplace⟩ := (Uri.placePath_eq_ok_iff uri).2 hpath
    simp only [findDecoded, hclosed, hplace]
    rfl
  takesProtocol := Hint.takesProtocol_protocolPlaces

end Editor

end JitExplorer
