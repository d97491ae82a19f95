/-
**The editor's library.**

The server does not speak with the editor itself.  A library keeps the documents that the editor has
opened, finds the document with a URI, and makes the places at which hints stand.  It is no part of
this project, so all that is said of the server is said for any library that keeps what is asked of
it here.

The library keeps a document by a key, which it makes of the URI in its own way, and keeps the keys
in the order in which they came.  It takes a document exactly if its URI leads to a path.  A
document that is not open is found as well; what its text is once it is read is no matter of the
library's, but of the moment.

Main definitions:

* `Session.Document`, `Session.enterDocument` — open documents, and how one is given a text;
* `Session.HasPath` — the URI of a document leads to a path;
* `Editor` — a library with what is asked of it.

Main results:

* `Session.find?_enterDocument_self` — a document that was entered has the given text.
-/

import JitExplorer.Hint
import JitExplorer.Uri

set_option autoImplicit false

namespace JitExplorer

namespace Session

/-- An open document under the key by which the library keeps it. -/
structure Document where
  uri : String
  text : String
  deriving DecidableEq, Repr

/-- A document is given a text among the open ones; one that is open keeps its place. -/
def enterDocument (key text : String) : List Document → List Document
  | [] => [{ uri := key, text }]
  | document :: documents =>
      if document.uri = key then { uri := key, text } :: documents
      else document :: enterDocument key text documents

/-- A document that was entered has the given text. -/
theorem find?_enterDocument_self (key text : String) (documents : List Document) :
    (enterDocument key text documents).find? (fun document => document.uri == key) =
      some { uri := key, text } := by
  induction documents with
  | nil => simp [enterDocument]
  | cons document documents ih =>
      unfold enterDocument
      split
      · simp
      · rename_i h
        simpa [h] using ih

/-- The URI of a document leads to a path. -/
def HasPath (uri : String) : Prop :=
  ∃ path, Uri.filePath uri = .ok path

end Session

open Session in
/-- **A library that connects the server with an editor,** and what is asked of it. -/
class Editor where
  /-- The key by which the library keeps the document with a URI. -/
  key : String → String
  /-- The open documents once the one with a URI has a text, or why it cannot have one. -/
  put : String → String → List Document → Except Failure (List Document)
  /-- The open documents without the one with a URI. -/
  remove : String → List Document → List Document
  /-- The document with a URI, if it is open; none if it has to be read; or why there is none. -/
  find : String → List Document → Except Failure (Option Document)
  /-- The places that the library takes. -/
  places : Hint.Places
  /-- A document whose URI leads to a path is kept by its key, with its text. -/
  put_of_hasPath : ∀ uri text documents, HasPath uri →
    put uri text documents = .ok (enterDocument (key uri) text documents)
  /-- No other document is taken. -/
  put_of_not_hasPath : ∀ uri text documents, ¬ HasPath uri →
    ∃ failure, put uri text documents = .error failure
  /-- A document is taken out by its key. -/
  remove_eq : ∀ uri documents,
    remove uri documents = documents.filter fun document => document.uri != key uri
  /-- An open document is found by its key. -/
  find_of_open : ∀ uri documents document,
    documents.find? (fun document => document.uri == key uri) = some document →
      find uri documents = .ok (some document)
  /-- A document that is not open has to be read from its path. -/
  find_of_closed : ∀ uri documents,
    documents.find? (fun document => document.uri == key uri) = none → HasPath uri →
      find uri documents = .ok none
  /-- The places of the protocol are taken. -/
  takesProtocol : places.TakesProtocol

end JitExplorer
