import PipelineAdvisor.Text.Search
import Mathlib.Tactic.Common

/-!
Tests that a mark cuts in two. Whatever such a test looks for lies on one side of the mark, so a
text of fixed pieces and inserted ones can be tested piece by piece.
-/

namespace PipelineAdvisor.Text

/-- A test that holds of a text around a mark just if it holds of a part beside the mark. -/
structure SplitsAt (marks : Char → Prop) (test : List Char → Bool) : Prop where
  empty : test [] = false
  split : ∀ mark, marks mark → ∀ front back,
    test (front ++ mark :: back) = (test front || test back)

namespace SplitsAt

variable {marks : Char → Prop} {test : List Char → Bool}

theorem cons (splits : SplitsAt marks test) {mark : Char} (known : marks mark) (back : List Char) :
    test (mark :: back) = test back := by
  have parted := splits.split mark known [] back
  rwa [splits.empty, Bool.false_or, List.nil_append] at parted

theorem concat (splits : SplitsAt marks test) {mark : Char} (known : marks mark)
    (front : List Char) : test (front ++ [mark]) = test front := by
  rw [splits.split mark known, splits.empty, Bool.or_false]

theorem skip (splits : SplitsAt marks test) {front : List Char} (known : ∀ c ∈ front, marks c)
    (back : List Char) : test (front ++ back) = test back := by
  induction front with
  | nil => rfl
  | cons mark rest ih =>
      rw [List.cons_append, splits.cons (known mark List.mem_cons_self), ih]
      exact fun other inRest => known other (List.mem_cons_of_mem mark inRest)

theorem append_of_last (splits : SplitsAt marks test) {mark : Char} {front : List Char}
    (last : front.getLast? = some mark) (known : marks mark) (back : List Char) :
    test (front ++ back) = (test front || test back) := by
  obtain ⟨start, rfl⟩ := List.getLast?_eq_some_iff.mp last
  rw [splits.concat known, List.append_assoc, List.singleton_append, splits.split mark known]

theorem append_of_head (splits : SplitsAt marks test) {mark : Char} {back : List Char}
    (head : back.head? = some mark) (known : marks mark) (front : List Char) :
    test (front ++ back) = (test front || test back) := by
  obtain ⟨rest, rfl⟩ := List.head?_eq_some_iff.mp head
  rw [splits.cons known, splits.split mark known]

theorem or {other : List Char → Bool} (splits : SplitsAt marks test)
    (otherSplits : SplitsAt marks other) :
    SplitsAt marks fun text => test text || other text where
  empty := by rw [splits.empty, otherSplits.empty, Bool.or_false]
  split := by
    intro mark known front back
    rw [splits.split mark known, otherSplits.split mark known]
    cases test front <;> cases test back <;> simp

theorem lowered (splits : SplitsAt marks test)
    (kept : ∀ mark, marks mark → mark.toLower = mark) :
    SplitsAt marks fun text => test (lowerAscii text) where
  empty := splits.empty
  split := by
    intro mark known front back
    rw [lowerAscii, List.map_append, List.map_cons, kept mark known]
    exact splits.split mark known _ _

end SplitsAt

/-- A search that finds in a text around a mark what it finds before the mark, or else behind it. -/
structure PartsAt {α : Type} (marks : Char → Prop) (find : List Char → Option α) : Prop where
  empty : find [] = none
  split : ∀ mark, marks mark → ∀ front back,
    find (front ++ mark :: back) = (find front).or (find back)

namespace PartsAt

variable {α : Type} {marks : Char → Prop} {find : List Char → Option α}

theorem cons (parts : PartsAt marks find) {mark : Char} (known : marks mark) (back : List Char) :
    find (mark :: back) = find back := by
  have parted := parts.split mark known [] back
  rwa [parts.empty, Option.none_or, List.nil_append] at parted

theorem concat (parts : PartsAt marks find) {mark : Char} (known : marks mark)
    (front : List Char) : find (front ++ [mark]) = find front := by
  rw [parts.split mark known, parts.empty, Option.or_none]

theorem mono (parts : PartsAt marks find) {fewer : Char → Prop}
    (known : ∀ mark, fewer mark → marks mark) : PartsAt fewer find where
  empty := parts.empty
  split := fun mark inFewer => parts.split mark (known mark inFewer)

end PartsAt

theorem SplitsAt.partsAt {marks : Char → Prop} {test : List Char → Bool}
    (splits : SplitsAt marks test) :
    PartsAt marks fun text => if test text then some () else none where
  empty := by rw [splits.empty, if_neg Bool.false_ne_true]
  split := by
    intro mark known front back
    rw [splits.split mark known]
    cases test front <;> cases test back <;> rfl

theorem findSome?_cons_or {α β : Type} (find : α → Option β) (first : α) (rest : List α) :
    (first :: rest).findSome? find = (find first).or (rest.findSome? find) := by
  rw [← List.singleton_append, List.findSome?_append, List.findSome?_singleton]

theorem any_eq_of_findSome? {test : List Char → Bool} {text : List Char} {texts : List (List Char)}
    (found : (if test text then some () else none) =
      texts.findSome? fun text => if test text then some () else none) :
    test text = texts.any test := by
  have isSome : ∀ text, (if test text then some () else none).isSome = test text := by
    intro text
    cases test text <;> rfl
  rw [← isSome, found, List.isSome_findSome?]
  simp only [isSome]

theorem occursIn_nil {needle : List Char} (filled : needle ≠ []) : occursIn needle [] = false := by
  rw [occursIn, List.isEmpty_eq_false_iff]
  exact filled

theorem isPrefixOf_append_mark {needle : List Char} {mark : Char} (clean : mark ∉ needle)
    (front back : List Char) :
    needle.isPrefixOf (front ++ mark :: back) = needle.isPrefixOf front := by
  induction needle generalizing front with
  | nil => rw [List.isPrefixOf_nil_left, List.isPrefixOf_nil_left]
  | cons letter rest ih =>
      rw [List.mem_cons, not_or] at clean
      cases front with
      | nil =>
          have differ : (letter == mark) = false := beq_eq_false_iff_ne.mpr (Ne.symm clean.1)
          rw [List.nil_append, List.isPrefixOf_cons_cons, differ, Bool.false_and]
          rfl
      | cons first others =>
          rw [List.cons_append, List.isPrefixOf_cons_cons, List.isPrefixOf_cons_cons, ih clean.2]

/-- No unbroken run lies across a character that it does not hold. -/
theorem occursIn_splitsAt {marks : Char → Prop} {needle : List Char} (filled : needle ≠ [])
    (clean : ∀ mark, marks mark → mark ∉ needle) : SplitsAt marks (occursIn needle) where
  empty := occursIn_nil filled
  split := by
    intro mark known front back
    have prefixes := isPrefixOf_append_mark (clean mark known)
    induction front with
    | nil =>
        have missed : needle.isPrefixOf (mark :: back) = false := by
          rw [← List.nil_append (mark :: back), prefixes]
          cases needle with
          | nil => exact absurd rfl filled
          | cons letter rest => rfl
        rw [List.nil_append, occursIn_nil filled, occursIn, missed]
    | cons first rest ih =>
        rw [List.cons_append, occursIn, ih, ← List.cons_append, prefixes, occursIn, Bool.or_assoc]

theorem length_le_of_occursIn {needle text : List Char} (occurs : occursIn needle text = true) :
    needle.length ≤ text.length := by
  induction text with
  | nil =>
      rw [occursIn, List.isEmpty_iff] at occurs
      simp [occurs]
  | cons first rest ih =>
      rw [occursIn, Bool.or_eq_true] at occurs
      rcases occurs with atFront | later
      · exact (List.isPrefixOf_iff_prefix.mp atFront).length_le
      · have shorter := ih later
        rw [List.length_cons]
        omega

theorem not_occursIn_of_short {needle text : List Char} (short : text.length < needle.length) :
    occursIn needle text = false := by
  rw [Bool.eq_false_iff]
  intro occurs
  have fits := length_le_of_occursIn occurs
  omega

end PipelineAdvisor.Text
