import PipelineAdvisor.Proofs.Rules.LongRuns

/-!
Which run the scanner finds: the leftmost of the long ones, whole. Runs that are too short do not stop
it, and no run is cut off on either side.
-/

namespace PipelineAdvisor.HardcodedSecret

structure IsLiteral (text : List Char) : Prop where
  dollar : '$' ∉ text
  angles : ¬['<', '<'] <:+: text

/-- A long run of letters and digits with the texts in front of it and behind it, in which it goes on
no further. -/
structure IsWholeRun (before run after : List Char) : Prop where
  long : IsLongRun run
  edgeBefore : ∀ c ∈ before.getLast?, c.isAlphanum = false
  edgeAfter : ∀ c ∈ after.head?, c.isAlphanum = false

def IsLeftmostRun (text run : List Char) : Prop :=
  ∃ before after, text = before ++ (run ++ after) ∧ IsWholeRun before run after ∧
    ∀ otherBefore other otherAfter, text = otherBefore ++ (other ++ otherAfter) →
      IsWholeRun otherBefore other otherAfter → before.length ≤ otherBefore.length

theorem isLiteral_iff {text : List Char} : IsLiteral text ↔
    ¬(interpolationMarks.any fun mark => Text.occursIn mark.toList text) = true := by
  have dollar : "$".toList <:+: text ↔ '$' ∈ text := List.singleton_infix_iff '$' text
  have angles : "<<".toList = ['<', '<'] := by decide
  simp only [interpolationMarks, List.any_cons, List.any_nil, Bool.or_false, Bool.or_eq_true,
    Text.occursIn_iff_infix, dollar, angles, not_or]
  exact ⟨fun none => ⟨none.dollar, none.angles⟩, fun none => ⟨none.1, none.2⟩⟩

theorem takeWhile_wholeRun {before run after : List Char} (whole : IsWholeRun before run after) :
    (run ++ after).takeWhile Char.isAlphanum = run := by
  have edge := whole.edgeAfter
  rw [List.takeWhile_append_of_pos whole.long.plain]
  cases after with
  | nil => rw [List.takeWhile_nil, List.append_nil]
  | cons c rest =>
      have special : c.isAlphanum = false := edge c rfl
      simp [special]

theorem firstLongRun?_spec {text run : List Char} (found : firstLongRun? text = some run) :
    ∃ before after, text = before ++ (run ++ after) ∧ IsWholeRun before run after ∧
      ∀ otherBefore other otherAfter, text = otherBefore ++ (other ++ otherAfter) →
        IsLongRun other → before.length ≤ otherBefore.length := by
  induction text with
  | nil => simp [firstLongRun?] at found
  | cons c rest ih =>
      rw [firstLongRun?] at found
      split at found
      next long =>
        obtain rfl := Option.some.inj found
        refine ⟨[], (c :: rest).dropWhile Char.isAlphanum, ?_, ⟨⟨long, ?_⟩, by simp, ?_⟩, by simp⟩
        · rw [List.nil_append, List.takeWhile_append_dropWhile]
        · exact List.all_eq_true.mp List.all_takeWhile
        · intro edge first
          have stops := List.head?_dropWhile_not Char.isAlphanum (c :: rest)
          rw [Option.mem_def.mp first] at stops
          simpa using stops
      next short =>
        obtain ⟨before, after, rfl, whole, leftmost⟩ := ih found
        refine ⟨c :: before, after, rfl, ⟨whole.long, ?_, whole.edgeAfter⟩, ?_⟩
        · cases before with
          | nil =>
              -- A letter right in front of the run would have made a longer run one place earlier.
              intro edge last
              obtain rfl : c = edge := by simpa using last
              by_contra letter
              apply short
              rw [List.nil_append, List.takeWhile_cons, if_pos (by simpa using letter),
                takeWhile_wholeRun whole, List.length_cons]
              exact Nat.le_succ_of_le whole.long.long
          | cons first others =>
              rw [List.getLast?_cons_cons]
              exact whole.edgeBefore
        · intro otherBefore other otherAfter parts long
          cases otherBefore with
          | nil =>
              refine absurd (exists_prefix_iff.mp ⟨other, ?_, long.plain, long.long⟩) short
              exact ⟨otherAfter, parts.symm⟩
          | cons first others =>
              have later := leftmost others other otherAfter (List.cons.inj parts).2 long
              exact Nat.succ_le_succ later

theorem firstLongRun?_eq_some_iff {text run : List Char} :
    firstLongRun? text = some run ↔ IsLeftmostRun text run := by
  constructor
  · intro found
    obtain ⟨before, after, parts, whole, leftmost⟩ := firstLongRun?_spec found
    exact ⟨before, after, parts, whole, fun otherBefore other otherAfter same otherWhole =>
      leftmost otherBefore other otherAfter same otherWhole.long⟩
  · rintro ⟨before, after, parts, whole, leftmost⟩
    have holds : HasLongRun text := ⟨run, whole.long, before, after, by rw [parts, List.append_assoc]⟩
    obtain ⟨first, found⟩ := Option.isSome_iff_exists.mp (hasLongRun_iff.mp holds)
    obtain ⟨firstBefore, firstAfter, same, firstWhole, first_leftmost⟩ := firstLongRun?_spec found
    -- Both runs are leftmost, so they begin at the same place and are the run from there on.
    have front : firstBefore.length = before.length :=
      Nat.le_antisymm (first_leftmost before run after parts whole.long)
        (leftmost firstBefore first firstAfter same firstWhole)
    have rest := (List.append_inj (same.symm.trans parts) front).2
    rw [found, ← takeWhile_wholeRun whole, ← rest, takeWhile_wholeRun firstWhole]

theorem mask_eq_iff {literal other : List Char} (long : 4 ≤ literal.length)
    (otherLong : 4 ≤ other.length) :
    mask other = mask literal ↔ other.take 4 = literal.take 4 ∧ other.length = literal.length := by
  have shape : ∀ word : List Char, (mask word).toList =
      word.take 4 ++ ("… (".toList ++ ((Nat.repr word.length).toList ++ " chars)".toList)) := by
    intro word
    simp [mask, String.toList_append, toString]
  have shown : (other.take 4).length = (literal.take 4).length := by
    rw [List.length_take_of_le otherLong, List.length_take_of_le long]
  rw [← String.toList_inj, shape, shape]
  constructor
  · intro same
    obtain ⟨front, back⟩ := List.append_inj same shown
    have digits := List.append_cancel_right (List.append_cancel_left back)
    have count := congrArg (fun digits => Nat.ofDigitChars 10 digits 0) digits
    exact ⟨front, by simpa [Nat.toList_repr] using count⟩
  · rintro ⟨front, count⟩
    rw [front, count]

/-- A text has a suspicious literal just if it shows no variable and holds a long run. The literal is
then the leftmost whole run of the text, and of all words of four characters and more its masked form
stands for those that begin with the same four and have the same length. -/
theorem candidate?_spec (text : List Char) :
    ((candidate? text).isSome = true ↔ IsLiteral text ∧ HasLongRun text) ∧
      ∀ literal, candidate? text = some literal →
        IsLeftmostRun text literal ∧ ∀ other : List Char, 4 ≤ other.length →
          (mask other = mask literal ↔
            other.take 4 = literal.take 4 ∧ other.length = literal.length) := by
  constructor
  · rw [candidate?, isLiteral_iff, hasLongRun_iff]
    split
    next marked => simp [marked]
    next plain => simp [plain]
  · intro literal found
    rw [candidate?, Option.ite_none_left_eq_some] at found
    have long := (firstLongRun?_isLongRun found.2).long
    rw [shortestSecret] at long
    exact ⟨firstLongRun?_eq_some_iff.mp found.2, fun other otherLong =>
      mask_eq_iff (Nat.le_trans (by decide) long) otherLong⟩

def keyText : List Char := "key1234567890 épiAKIAABCDEFGHIJKLMNOPQé zyxwvutsrq0123456789".toList

theorem candidate?_spec_keyText :
    candidate? keyText = some "piAKIAABCDEFGHIJKLMNOPQ".toList ∧
      IsLeftmostRun keyText "piAKIAABCDEFGHIJKLMNOPQ".toList ∧
      4 ≤ "piAKnothing-but-guesses".toList.length ∧
      mask "piAKnothing-but-guesses".toList = mask "piAKIAABCDEFGHIJKLMNOPQ".toList := by
  have found : candidate? keyText = some "piAKIAABCDEFGHIJKLMNOPQ".toList := by decide +kernel
  obtain ⟨leftmost, shown⟩ := (candidate?_spec keyText).2 _ found
  exact ⟨found, leftmost, by decide, (shown _ (by decide)).mpr ⟨by decide, by decide⟩⟩

end PipelineAdvisor.HardcodedSecret
