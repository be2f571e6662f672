import Mathlib
import JavadocRepair.Files.Tree

/-!
# Null characters in paths

A null character is the only thing that makes a path unfit for being opened at all. A normal form
has none unless the path has one, since it is made of characters of the path, slashes and dots.
-/

namespace JavadocRepair

namespace Path

/-- The texts between slashes hold characters of the text that is cut, and no others. -/
theorem mem_of_mem_splitAtSlashes {part chars : List Char} {text : String} {c : Char}
    (member : text ∈ splitAtSlashes part chars) (inside : c ∈ text.toList) :
    c ∈ part ∨ c ∈ chars := by
  induction chars generalizing part with
  | nil =>
    rw [splitAtSlashes, List.mem_singleton] at member
    subst member
    left
    simpa using inside
  | cons d chars ih =>
    rw [splitAtSlashes] at member
    split at member
    · rcases List.mem_cons.1 member with rfl | later
      · left
        simpa using inside
      · rcases ih later with none | later
        · cases none
        · exact .inr (List.mem_cons_of_mem _ later)
    · rcases ih member with here | later
      · rcases List.mem_cons.1 here with rfl | before
        · exact .inr List.mem_cons_self
        · exact .inl before
      · exact .inr (List.mem_cons_of_mem _ later)

theorem mem_of_mem_intercalate {c : Char} {texts : List String}
    (inside : c ∈ ("/".intercalate texts).toList) : c = '/' ∨ ∃ text ∈ texts, c ∈ text.toList := by
  rw [String.toList_intercalate] at inside
  induction texts with
  | nil => simp [List.intercalate] at inside
  | cons text texts ih =>
    cases texts with
    | nil => exact .inr ⟨text, by simp, by simpa [List.intercalate] using inside⟩
    | cons next texts =>
      rw [List.map_cons, List.map_cons, List.intercalate_cons_cons] at inside
      rcases List.mem_append.1 inside with here | later
      · rcases List.mem_append.1 here with first | slash
        · exact .inr ⟨text, by simp, first⟩
        · left
          simpa using slash
      · rcases ih later with slash | ⟨other, member, found⟩
        · exact .inl slash
        · exact .inr ⟨other, List.mem_cons_of_mem _ member, found⟩

/-- A normal form holds characters of its path, slashes and dots, and no others. -/
theorem mem_of_mem_normal {path : String} {c : Char} (inside : c ∈ (normal path).toList) :
    c ∈ path.toList ∨ c = '/' ∨ c = '.' := by
  have slashes : c ∈ (root path).toList → c = '/' := by
    unfold root
    split <;> simp
  unfold normal at inside
  dsimp only at inside
  split at inside
  · right; right
    simpa using inside
  · rw [String.toList_append] at inside
    rcases List.mem_append.1 inside with front | back
    · exact .inr (.inl (slashes front))
    · rcases mem_of_mem_intercalate back with slash | ⟨text, member, found⟩
      · exact .inr (.inl slash)
      · rcases mem_of_mem_splitAtSlashes (List.mem_of_mem_filter member) found with none | there
        · cases none
        · exact .inl there

end Path

namespace FileTree

variable {tree : FileTree} {place : Location} {steps : List Path.Step} {path : String}

theorem follow_ne_embeddedNull : tree.follow place steps ≠ .error .embeddedNull := by
  intro failed
  induction steps generalizing place with
  | nil =>
    simp only [follow] at failed
    split at failed <;> cases failed
  | cons step steps ih =>
    simp only [follow] at failed
    split at failed
    · cases step with
      | here => exact ih failed
      | up => exact ih failed
      | down name =>
        dsimp only at failed
        split at failed
        · cases failed
        · split at failed
          · exact ih failed
          · split at failed <;> cases failed
    · cases failed

/-- A path is refused for a null character if and only if it has one. -/
theorem read_eq_embeddedNull_iff :
    tree.read path = .error .embeddedNull ↔ '\x00' ∈ path.toList := by
  by_cases null : '\x00' ∈ path.toList
  · simp [read, resolve, pathFault?, null]
  · have resolved : tree.resolve path ≠ .error .embeddedNull := by
      intro failed
      simp only [resolve, pathFault?, List.contains_eq_mem, null, decide_false,
        Bool.false_eq_true, if_false] at failed
      split at failed
      · next fault found =>
        split at found
        · cases found
          cases failed
        · split at found <;> cases found
          cases failed
      · exact follow_ne_embeddedNull failed
    simp only [null, iff_false, read]
    split
    · next fault failed =>
      intro same
      cases same
      exact resolved failed
    all_goals simp

/-- The normal form of a path without a null character is not refused for one. -/
theorem read_normal_ne_embeddedNull (noNull : '\x00' ∉ path.toList) :
    tree.read (Path.normal path) ≠ .error .embeddedNull := by
  rw [Ne, read_eq_embeddedNull_iff]
  intro null
  rcases Path.mem_of_mem_normal null with inside | slash | dot
  · exact noNull inside
  · cases slash
  · cases dot

end FileTree

end JavadocRepair
