import Mathlib.Data.List.Infix
import PipelineAdvisor.Proofs.Text.Separation

/-!
Where words stand in a text. A word stands free at a place that no longer word of a list covers; a
longer word that covers it would hold it.
-/

namespace PipelineAdvisor.Text

theorem occursIn_iff_infix {needle text : List Char} :
    occursIn needle text = true ↔ needle <:+: text := by
  induction text with
  | nil => rw [occursIn, List.isEmpty_iff, List.infix_nil]
  | cons c rest ih =>
      rw [occursIn, Bool.or_eq_true, ih, List.isPrefixOf_iff_prefix, List.infix_cons_iff]

def StandsAt (word text : List Char) (place : Nat) : Prop :=
  word <+: text.drop place

instance (word text : List Char) (place : Nat) : Decidable (StandsAt word text place) :=
  inferInstanceAs (Decidable (word <+: text.drop place))

/-- Whether a word stands in a text at a place that no longer word of a list covers. -/
def StandsFree (words : List (List Char)) (word text : List Char) : Prop :=
  ∃ place, StandsAt word text place ∧
    ∀ longer ∈ words, word.length < longer.length → ∀ start, StandsAt longer text start →
      ¬(start ≤ place ∧ place + word.length ≤ start + longer.length)

theorem infix_iff_standsAt {word text : List Char} :
    word <:+: text ↔ ∃ place, StandsAt word text place := by
  constructor
  · rintro ⟨front, back, rfl⟩
    refine ⟨front.length, ?_⟩
    rw [StandsAt, List.append_assoc, List.drop_left]
    exact List.prefix_append word back
  · rintro ⟨place, stands⟩
    exact stands.isInfix.trans (List.drop_suffix place text).isInfix

theorem StandsAt.of_covered {word longer text : List Char} {place start : Nat}
    (stands : StandsAt word text place) (covers : StandsAt longer text start)
    (behind : start ≤ place) (inside : place + word.length ≤ start + longer.length) :
    StandsAt word longer (place - start) := by
  have rest : longer.drop (place - start) <+: text.drop place := by
    have tail := covers.drop (place - start)
    rwa [List.drop_drop, Nat.add_sub_cancel' behind] at tail
  have fits : word.length ≤ (longer.drop (place - start)).length := by
    rw [List.length_drop]
    omega
  exact List.prefix_of_prefix_length_le stands rest fits

end PipelineAdvisor.Text
