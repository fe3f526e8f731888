/-
# Recordsmith.Proofs.Path — names within paths

A *plain name* is a text that stands for one part of a path: it holds no slash and
is neither empty nor one of the dots. A path that ends in a plain name has it as
its last part, whatever the directory in front looks like (`parts_join`), and the
stem of a path holds no slash (`slash_not_mem_stem`).
-/
import Recordsmith.Path

namespace Recordsmith

set_option autoImplicit false

namespace Text

/-! ## Pieces -/

/-- All pieces of a text. -/
def allPieces (mark : Char) (text : List Char) : List (List Char) :=
  (pieces mark text).1 :: (pieces mark text).2

theorem not_mem_of_mem_allPieces {mark : Char} {text piece : List Char}
    (member : piece ∈ allPieces mark text) : mark ∉ piece := by
  induction text generalizing piece with
  | nil =>
    simp only [allPieces, pieces, List.mem_singleton] at member
    simp [member]
  | cons c rest ih =>
    simp only [allPieces, pieces] at member ih
    split at member
    · rcases List.mem_cons.1 member with rfl | later
      · simp
      · exact ih later
    · next other =>
      rcases List.mem_cons.1 member with rfl | later
      · rw [List.mem_cons, not_or]
        exact ⟨fun same => other same.symm, ih (by simp)⟩
      · exact ih (List.mem_cons_of_mem _ later)

theorem allPieces_of_not_mem {mark : Char} {text : List Char} (absent : mark ∉ text) :
    allPieces mark text = [text] := by
  induction text with
  | nil => rfl
  | cons c rest ih =>
    rw [List.mem_cons, not_or] at absent
    have pieced := ih absent.2
    simp only [allPieces, List.cons.injEq] at pieced
    simp [allPieces, pieces, pieced, Ne.symm absent.1]

theorem allPieces_cons {mark : Char} {first : List Char} (absent : mark ∉ first)
    (rest : List Char) :
    allPieces mark (first ++ mark :: rest) = first :: allPieces mark rest := by
  induction first with
  | nil => simp [allPieces, pieces]
  | cons c more ih =>
    rw [List.mem_cons, not_or] at absent
    have pieced := ih absent.2
    simp only [allPieces, List.cons.injEq] at pieced
    simp [allPieces, pieces, pieced, Ne.symm absent.1]

theorem allPieces_append {mark : Char} (front : List Char) {last : List Char}
    (absent : mark ∉ last) :
    allPieces mark (front ++ mark :: last) = allPieces mark front ++ [last] := by
  induction front with
  | nil =>
    have pieced := allPieces_of_not_mem absent
    simp only [allPieces, List.cons.injEq] at pieced
    simp [allPieces, pieces, pieced]
  | cons c rest ih =>
    simp only [allPieces, List.cons_append, List.cons.injEq] at ih
    by_cases same : c = mark
    · simp [allPieces, pieces, same, ih]
    · simp [allPieces, pieces, same, ih]

end Text

namespace Path

/-- A name of one part. -/
structure PlainName (name : String) : Prop where
  noSlash : '/' ∉ name.toList
  notEmpty : name ≠ ""
  notHere : name ≠ "."
  notAbove : name ≠ ".."

/-- The last part of a file's path in a directory is its name. -/
theorem parts_join (directory : String) {name : String} (noSlash : '/' ∉ name.toList) :
    ∃ front, Text.allPieces '/' (join directory name).toList = front ++ [name.toList] := by
  rw [join]
  split
  · exact ⟨[], Text.allPieces_of_not_mem noSlash⟩
  · next ends =>
    obtain ⟨front, split⟩ := List.getLast?_eq_some_iff.1 ends
    refine ⟨Text.allPieces '/' front, ?_⟩
    rw [String.toList_append, split, List.append_assoc]
    exact Text.allPieces_append front noSlash
  · refine ⟨Text.allPieces '/' directory.toList, ?_⟩
    rw [String.toList_append, String.toList_append, List.append_assoc]
    exact Text.allPieces_append directory.toList noSlash

/-! ## Stems -/

theorem slash_not_mem_fileName {path : String} {name : List Char}
    (named : fileName? path = some name) : '/' ∉ name := by
  simp only [fileName?] at named
  split at named
  · cases named
    apply @Text.not_mem_of_mem_allPieces '/' path.toList
    cases last : ((parts path.toList).2.filter isStep).getLast? with
    | none => simp [Text.allPieces, parts]
    | some part =>
      have member := List.mem_of_getLast? last
      exact List.mem_cons_of_mem _ (List.mem_filter.1 member).1
  · cases named

theorem splitLastDot?_eq_some {name front behind : List Char}
    (split : splitLastDot? name = some (front, behind)) : name = front ++ '.' :: behind := by
  induction name generalizing front with
  | nil => cases split
  | cons c rest ih =>
    rw [splitLastDot?] at split
    cases found : splitLastDot? rest with
    | none =>
      simp only [found, Option.ite_none_right_eq_some, Option.some.injEq, Prod.mk.injEq] at split
      obtain ⟨rfl, rfl, rfl⟩ := split
      rfl
    | some halves =>
      obtain ⟨inner, outer⟩ := halves
      simp only [found, Option.some.injEq, Prod.mk.injEq] at split
      obtain ⟨rfl, rfl⟩ := split
      rw [ih found, List.cons_append]

theorem slash_not_mem_stem {path stem : String} (found : stem? path = some stem) :
    '/' ∉ stem.toList := by
  rw [stem?, Option.map_eq_some_iff] at found
  obtain ⟨name, named, rfl⟩ := found
  have noSlash := slash_not_mem_fileName named
  split
  · next c front behind split =>
    rw [splitLastDot?_eq_some split, List.mem_append, not_or] at noSlash
    rw [String.toList_ofList]
    exact noSlash.1
  · rwa [String.toList_ofList]

end Path

end Recordsmith
