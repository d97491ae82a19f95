/-
**Addresses of files.**

The address of a file names no host: behind the scheme and the two slashes of an empty authority
stands an escaped form of the path.  Such an address is cut at none of the characters of the path,
whatever these are: a question mark, a number sign, a bracket or a newline of the path is escaped,
and a path may begin with two slashes, since the authority ends at the first one.  So the path is
read back, but for the slash in front of a drive letter.

Main definitions:

* `Uri.IsFileAddress` — the addresses of the file with a given path.

Main results:

* `Uri.split_fileAddress` — the parts of such an address;
* `Uri.dropDriveSlash_eq` — the slash that is dropped;
* `Uri.filePath_of_isFileAddress` — **the path of a file is read back from its addresses.**
-/

import JitExplorer.Proofs.Text.EscapedForm
import JitExplorer.Uri
import Mathlib.Data.List.TakeWhile

set_option autoImplicit false

namespace JitExplorer.Uri

/-! ### Cutting an address -/

/-- What stands in front of the path of a file. -/
def fileMark : List Char := "file://".toList

/-- An address that holds neither tabs nor line ends counts as it is. -/
theorem relevant_fileMark_append {t : List Char} (h : ∀ c ∈ t, isIgnored c = false) :
    relevant (fileMark ++ t) = fileMark ++ t := by
  have hfront : (fileMark ++ t).dropWhile isControlOrSpace = fileMark ++ t := rfl
  rw [relevant, hfront, List.filter_eq_self]
  intro c hc
  rcases List.mem_append.1 hc with hc | hc
  · have hmark : (fileMark.all fun d => !isIgnored d) = true := by decide
    exact List.all_eq_true.1 hmark c hc
  · rw [h c hc, Bool.not_false]

/-- A text without marks of a query or a fragment is a path as it is. -/
theorem cutPath_of_notMem {s : List Char} (hfragment : '#' ∉ s) (hquery : '?' ∉ s) :
    cutPath s = s := by
  have hkeep : ∀ {mark : Char}, mark ∉ s → s.takeWhile (· != mark) = s := by
    intro mark hmark
    rw [List.takeWhile_eq_self_iff]
    intro c hc
    simp only [bne_iff_ne, ne_eq]
    rintro rfl
    exact hmark hc
  rw [cutPath, hkeep hfragment, hkeep hquery]

section Parts

variable {path t : List Char} (h : Text.Percent.Escapes path t)

include h

/-- A character that stands for itself stands in front of an escaped form if it does in the text. -/
theorem head?_of_escapes {c : Char} (hplain : Text.Percent.isPlain c = true)
    (hroot : path.head? = some c) : t.head? = some c := by
  cases h with
  | nil => cases hroot
  | plain _ _ => simpa using hroot
  | escaped hother _ _ =>
      obtain rfl := Option.some.inj hroot
      rw [hplain] at hother
      cases hother

theorem not_isIgnored_of_escapes : ∀ c ∈ t, isIgnored c = false := by
  intro c hc
  have hne : ∀ d, Text.Percent.isPlain d = false → d ≠ '%' → c ≠ d := by
    rintro d hplain hpercent rfl
    exact h.notMem hplain hpercent hc
  simp [isIgnored, hne '\t' rfl (by decide), hne '\r' rfl (by decide), hne '\n' rfl (by decide)]

/-- **The parts of an address of a file.** -/
theorem split_fileAddress (hroot : path.head? = some '/') :
    split (fileMark ++ t) = .ok { scheme := fileScheme, authority := [], path := t } := by
  obtain ⟨r, hr⟩ := List.head?_eq_some_iff.1 (head?_of_escapes h rfl hroot)
  have hscheme : splitScheme (fileMark ++ t) = (fileScheme, "//".toList ++ t) := rfl
  have hauthority : splitAuthority ("//".toList ++ t) = ([], t) := by rw [hr]; rfl
  have hpath : cutPath t = t :=
    cutPath_of_notMem (h.notMem rfl (by decide)) (h.notMem rfl (by decide))
  rw [split, relevant_fileMark_append (not_isIgnored_of_escapes h), hscheme]
  simp only [hauthority, hpath]
  rfl

end Parts

/-! ### The path of a file -/

/-- **The slash that is dropped** is the one in front of a drive letter. -/
theorem dropDriveSlash_eq {path : List Char} (hroot : path.head? = some '/') :
    dropDriveSlash path = if path[2]? = some ':' then path.tail else path := by
  obtain ⟨rest, rfl⟩ := List.head?_eq_some_iff.1 hroot
  match rest with
  | [] => rfl
  | [_] => rfl
  | c :: d :: rest =>
      by_cases hd : d = ':'
      · simp [dropDriveSlash, hd]
      · simp [dropDriveSlash, hd]

/-- **The addresses of the file with a given path:** the scheme, an empty authority, and an escaped
form of the path. -/
def IsFileAddress (path uri : String) : Prop :=
  ∃ t, Text.Percent.Escapes path.toList t ∧ uri = "file://" ++ String.ofList t

/-- **The path of a file is read back from its addresses,** but for the slash in front of a drive
letter.  Every path has an address. -/
theorem filePath_of_isFileAddress {path : String} (hroot : path.toList.head? = some '/') :
    (∃ uri, IsFileAddress path uri) ∧
    ∀ uri, IsFileAddress path uri →
      filePath uri =
        .ok (if path.toList[2]? = some ':' then String.ofList path.toList.tail else path) := by
  constructor
  · obtain ⟨t, ht⟩ := Text.Percent.exists_escapes path.toList
    exact ⟨_, t, ht, rfl⟩
  · rintro _ ⟨t, ht, rfl⟩
    have huri : ("file://" ++ String.ofList t).toList = fileMark ++ t :=
      String.toList_append.trans (congrArg (fileMark ++ ·) String.toList_ofList)
    rw [filePath, huri, split_fileAddress ht hroot]
    simp only [localPath, if_true, Text.Percent.decode_of_escapes ht, dropDriveSlash_eq hroot]
    split
    · rfl
    · rw [String.ofList_toList]

/-- A path with a drive letter, a blank and a character of two bytes, and one of its addresses, with
escapes in small and in capital letters. -/
theorem filePath_of_isFileAddress_drive :
    "/C:/ü ".toList.head? = some '/' ∧ IsFileAddress "/C:/ü " "file:///C%3a/%C3%bC%20" ∧
      filePath "file:///C%3a/%C3%bC%20" = .ok "C:/ü " := by
  have hroot : "/C:/ü ".toList.head? = some '/' := rfl
  have haddress : IsFileAddress "/C:/ü " "file:///C%3a/%C3%bC%20" := by
    refine ⟨"/C%3a/%C3%bC%20".toList, ?_, rfl⟩
    refine .plain rfl (.plain rfl (.escaped (e := ['%', '3', 'a']) rfl ?_ (.plain rfl
      (.escaped (e := ['%', 'C', '3', '%', 'b', 'C']) rfl ?_
        (.escaped (e := ['%', '2', '0']) rfl ?_ .nil)))))
    · exact .cons (.inl rfl) (.inl rfl) .nil
    · exact .cons (.inr rfl) (.inl rfl) (.cons (.inl rfl) (.inr rfl) .nil)
    · exact .cons (.inl rfl) (.inl rfl) .nil
  exact ⟨hroot, haddress, (filePath_of_isFileAddress hroot).2 _ haddress⟩

end JitExplorer.Uri
