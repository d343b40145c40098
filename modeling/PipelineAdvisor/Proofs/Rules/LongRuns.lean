import PipelineAdvisor.Proofs.Json.Stretches
import PipelineAdvisor.Proofs.Rules.Disclosure
import PipelineAdvisor.Proofs.Text.Occurrences

/-!
Long runs of letters and digits. The scanner finds one just if the text holds one. In the written form
of a text the letters of an escape run into what follows a control character, so there a shorter run
right behind the control character counts as well.
-/

namespace PipelineAdvisor

open Text (PartsAt)

namespace HardcodedSecret

def HasLongRun (text : List Char) : Prop :=
  ∃ run, IsLongRun run ∧ run <:+: text

theorem not_hasLongRun_nil : ¬HasLongRun [] := by
  rintro ⟨run, long, inside⟩
  have filled := long.long
  rw [List.infix_nil.mp inside] at filled
  simp [shortestSecret] at filled

theorem exists_prefix_iff {text : List Char} {length : Nat} :
    (∃ run, run <+: text ∧ (∀ c ∈ run, c.isAlphanum = true) ∧ length ≤ run.length) ↔
      length ≤ (text.takeWhile Char.isAlphanum).length := by
  constructor
  · rintro ⟨run, ⟨rest, rfl⟩, plain, filled⟩
    rw [List.takeWhile_append_of_pos plain, List.length_append]
    omega
  · intro filled
    exact ⟨_, List.takeWhile_prefix _, List.all_eq_true.mp List.all_takeWhile, filled⟩

theorem isLongRun_iff {run : List Char} : IsLongRun run ↔
    (∀ c ∈ run, c.isAlphanum = true) ∧ shortestSecret ≤ run.length :=
  ⟨fun long => ⟨long.plain, long.long⟩, fun known => ⟨known.2, known.1⟩⟩

theorem hasLongRun_cons {c : Char} {rest : List Char} : HasLongRun (c :: rest) ↔
    shortestSecret ≤ ((c :: rest).takeWhile Char.isAlphanum).length ∨ HasLongRun rest := by
  rw [← exists_prefix_iff]
  simp only [HasLongRun, List.infix_cons_iff, and_or_left, exists_or, isLongRun_iff,
    and_comm (b := _ <+: _)]

theorem hasLongRun_iff {text : List Char} :
    HasLongRun text ↔ (firstLongRun? text).isSome = true := by
  induction text with
  | nil => simp [firstLongRun?, not_hasLongRun_nil]
  | cons c rest ih =>
      rw [hasLongRun_cons, firstLongRun?]
      by_cases filled : shortestSecret ≤ ((c :: rest).takeWhile Char.isAlphanum).length
      · simp [filled]
      · simp [filled, ih]

theorem takeWhile_append_special {special : Char} (known : special.isAlphanum = false)
    (front back : List Char) : (front ++ special :: back).takeWhile Char.isAlphanum =
      front.takeWhile Char.isAlphanum := by
  induction front with
  | nil => simp [known]
  | cons c rest ih => rw [List.cons_append, List.takeWhile_cons, List.takeWhile_cons, ih]

/-- A search for a run never crosses a character that is no letter or digit. -/
theorem firstLongRun?_splits : PartsAt (fun c => c.isAlphanum = false) firstLongRun? where
  empty := rfl
  split := by
    intro special known front back
    induction front with
    | nil => simp [firstLongRun?, known, shortestSecret]
    | cons c rest ih =>
        have here := takeWhile_append_special known (c :: rest) back
        rw [List.cons_append] at here
        rw [List.cons_append, firstLongRun?, firstLongRun?, here, ih]
        split <;> rfl

theorem hasLongRun_split {special : Char} (known : special.isAlphanum = false)
    (front back : List Char) :
    HasLongRun (front ++ special :: back) ↔ HasLongRun front ∨ HasLongRun back := by
  rw [hasLongRun_iff, hasLongRun_iff, hasLongRun_iff, firstLongRun?_splits.split _ known,
    Option.isSome_or, Bool.or_eq_true]

theorem hasLongRun_append {letters : List Char} (plain : ∀ c ∈ letters, c.isAlphanum = true)
    (few : letters.length < shortestSecret) (text : List Char) : HasLongRun (letters ++ text) ↔
      shortestSecret ≤ letters.length + (text.takeWhile Char.isAlphanum).length ∨
        HasLongRun text := by
  induction letters with
  | nil =>
      -- Without letters a run at the front is a run of the text.
      rw [List.nil_append, List.length_nil, Nat.zero_add, ← exists_prefix_iff, iff_or_self]
      rintro ⟨run, atFront, plain, filled⟩
      exact ⟨run, ⟨filled, plain⟩, atFront.isInfix⟩
  | cons c rest ih =>
      have restPlain : ∀ c ∈ rest, c.isAlphanum = true := fun other known =>
        plain other (List.mem_cons_of_mem c known)
      rw [List.length_cons] at few
      have run : ((c :: (rest ++ text)).takeWhile Char.isAlphanum).length =
          rest.length + 1 + (text.takeWhile Char.isAlphanum).length := by
        rw [← List.cons_append, List.takeWhile_append_of_pos plain, List.length_append,
          List.length_cons]
      rw [List.cons_append, hasLongRun_cons, run, ih restPlain (by omega), List.length_cons,
        ← or_assoc]
      apply or_congr_left
      omega

/-- The length from which a run right behind a control character is suspicious: it goes on from one
letter of a short escape, or from the five of a numbered one. -/
def shortestBehind (control : Char) : Nat :=
  if control ∈ ['\x08', '\t', '\n', '\x0c', '\r'] then 19 else 15

def HasRunBehindControl (text : List Char) : Prop :=
  ∃ front control run back, text = front ++ control :: (run ++ back) ∧ control.toNat < 0x20 ∧
    (∀ c ∈ run, c.isAlphanum = true) ∧ shortestBehind control ≤ run.length

theorem all_control {test : Char → Bool}
    (all : (List.range 0x20).all (fun code => test (Char.ofNat code)) = true) {control : Char}
    (known : control.toNat < 0x20) : test control = true := by
  have here := List.all_eq_true.mp all control.toNat (List.mem_range.mpr known)
  rwa [Char.ofNat_toNat] at here

theorem escapeChar_letters {control : Char} (known : control.toNat < 0x20) :
    (∀ c ∈ (Json.escapeChar control).tail, c.isAlphanum = true) ∧
      (Json.escapeChar control).tail.length + shortestBehind control = shortestSecret := by
  have plain := @all_control (fun c => (Json.escapeChar c).tail.all Char.isAlphanum)
    (by decide +kernel) control known
  have length := @all_control
    (fun c => (Json.escapeChar c).tail.length + shortestBehind c == shortestSecret)
    (by decide +kernel) control known
  exact ⟨List.all_eq_true.mp plain, beq_iff_eq.mp length⟩

theorem not_isAlphanum_of_control {control : Char} (known : control.toNat < 0x20) :
    control.isAlphanum = false := by
  have special := @all_control (fun c => !c.isAlphanum) (by decide +kernel) control known
  simpa using special

theorem hasRunBehindControl_cons {c : Char} {rest : List Char} : HasRunBehindControl (c :: rest) ↔
    (c.toNat < 0x20 ∧ shortestBehind c ≤ (rest.takeWhile Char.isAlphanum).length) ∨
      HasRunBehindControl rest := by
  rw [← exists_prefix_iff]
  constructor
  · rintro ⟨front, control, run, back, parts, known, plain, filled⟩
    cases front with
    | nil =>
        obtain ⟨rfl, rfl⟩ := List.cons.inj parts
        exact Or.inl ⟨known, run, ⟨back, rfl⟩, plain, filled⟩
    | cons first others =>
        obtain ⟨rfl, rfl⟩ := List.cons.inj parts
        exact Or.inr ⟨others, control, run, back, rfl, known, plain, filled⟩
  · rintro (⟨known, run, ⟨back, rfl⟩, plain, filled⟩ | ⟨front, control, run, back, rfl, later⟩)
    · exact ⟨[], c, run, back, rfl, known, plain, filled⟩
    · exact ⟨c :: front, control, run, back, rfl, later⟩

theorem takeWhile_cutAtControls (text : List Char) :
    (Json.cutAtControls text).1.takeWhile Char.isAlphanum = text.takeWhile Char.isAlphanum := by
  induction text with
  | nil => rfl
  | cons c rest ih =>
      by_cases control : c.toNat < 0x20
      · simp [Json.cutAtControls_control control, not_isAlphanum_of_control control]
      · rw [Json.cutAtControls_visible control, List.takeWhile_cons, List.takeWhile_cons, ih]

theorem hasLongRun_cutAtControls (front text : List Char) :
    (HasLongRun (front ++ (Json.cutAtControls text).1) ∨
        ∃ stretch ∈ (Json.cutAtControls text).2, HasLongRun stretch) ↔
      HasLongRun (front ++ text) ∨ HasRunBehindControl text := by
  -- A visible character joins the front; behind a control character the front is over.
  induction text generalizing front with
  | nil => simp [Json.cutAtControls, HasRunBehindControl]
  | cons c rest ih =>
      by_cases control : c.toNat < 0x20
      · obtain ⟨plain, length⟩ := escapeChar_letters control
        have few : (Json.escapeChar c).tail.length < shortestSecret := by
          rw [← length, shortestBehind]
          split <;> omega
        have enough : shortestSecret ≤ (Json.escapeChar c).tail.length +
            (rest.takeWhile Char.isAlphanum).length ↔
              shortestBehind c ≤ (rest.takeWhile Char.isAlphanum).length := by
          omega
        have later := ih []
        rw [List.nil_append, List.nil_append] at later
        simp only [Json.cutAtControls_control control, List.append_nil, List.mem_cons,
          exists_eq_or_imp, hasLongRun_append plain few, takeWhile_cutAtControls, enough,
          hasLongRun_split (not_isAlphanum_of_control control), hasRunBehindControl_cons, control,
          true_and, or_assoc, later]
        apply or_congr_right
        rw [or_left_comm]
      · have joined := ih (front ++ [c])
        simp only [List.append_assoc, List.singleton_append] at joined
        rw [Json.cutAtControls_visible control, joined, hasRunBehindControl_cons]
        simp [control]

theorem exists_stretch_hasLongRun (text : List Char) :
    (∃ stretch ∈ Json.stretches text, HasLongRun stretch) ↔
      HasLongRun text ∨ HasRunBehindControl text := by
  have cut := hasLongRun_cutAtControls [] text
  rw [List.nil_append, List.nil_append] at cut
  simpa only [Json.stretches, List.mem_cons, exists_eq_or_imp] using cut

end HardcodedSecret

end PipelineAdvisor
