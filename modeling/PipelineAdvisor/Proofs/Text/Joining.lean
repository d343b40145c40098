import Mathlib.Tactic.Common

/-!
Lists with something between their elements, as the lines of a table have rules between them, paths
slashes, and texts of several parts commas.
-/

namespace PipelineAdvisor

theorem map_intersperse {α β : Type} (change : α → β) (between : α) (parts : List α) :
    (parts.intersperse between).map change = (parts.map change).intersperse (change between) := by
  induction parts with
  | nil => rfl
  | cons first rest ih =>
      cases rest with
      | nil => rfl
      | cons second others =>
          rw [List.intersperse_cons_cons, List.map_cons, List.map_cons, ih]
          rfl

theorem filterMap_intersperse {α β : Type} {read : α → Option β} {between : α}
    (unread : read between = none) (parts : List α) :
    (parts.intersperse between).filterMap read = parts.filterMap read := by
  induction parts with
  | nil => rfl
  | cons first rest ih =>
      cases rest with
      | nil => rfl
      | cons second others =>
          rw [List.intersperse_cons_cons, List.filterMap_cons, List.filterMap_cons_none unread, ih]
          rfl

theorem mem_of_mem_intersperse {α : Type} {between part : α} {parts : List α}
    (known : part ∈ parts.intersperse between) : part = between ∨ part ∈ parts := by
  induction parts with
  | nil => cases known
  | cons first rest ih =>
      cases rest with
      | nil => exact Or.inr known
      | cons second others =>
          rw [List.intersperse_cons_cons, List.mem_cons, List.mem_cons] at known
          rcases known with rfl | rfl | later
          · exact Or.inr List.mem_cons_self
          · exact Or.inl rfl
          · exact (ih later).imp_right (List.mem_cons_of_mem first)

theorem mem_of_mem_intercalate {α : Type} {between : List α} {item : α} {parts : List (List α)}
    (inside : item ∈ between.intercalate parts) :
    item ∈ between ∨ ∃ part ∈ parts, item ∈ part := by
  obtain ⟨part, known, inPart⟩ := List.mem_flatten.mp inside
  rcases mem_of_mem_intersperse known with rfl | isPart
  · exact Or.inl inPart
  · exact Or.inr ⟨part, isPart, inPart⟩

theorem mem_of_mem_joined {c : Char} {between : String} {parts : List String}
    (inside : c ∈ (between.intercalate parts).toList) :
    c ∈ between.toList ∨ ∃ part ∈ parts, c ∈ part.toList := by
  rw [String.toList_intercalate] at inside
  rcases mem_of_mem_intercalate inside with inBetween | ⟨_, known, inPart⟩
  · exact Or.inl inBetween
  · obtain ⟨part, isPart, rfl⟩ := List.mem_map.mp known
    exact Or.inr ⟨part, isPart, inPart⟩

end PipelineAdvisor
