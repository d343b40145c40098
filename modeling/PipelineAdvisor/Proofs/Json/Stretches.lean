import PipelineAdvisor.Json.Printer
import PipelineAdvisor.Proofs.Text.Separation

/-!
What a search finds in the compact text of a value. A search that the punctuation of the data format
and the backslash cut in two sees the scalars of the value one by one, and of a string the
stretches between its control characters, each behind the letters of an escape.
-/

namespace PipelineAdvisor.Json

open Text (PartsAt)

def marks : List Char := ['[', ']', '{', '}', ',', ':', '"', '\\']

def IsMark (c : Char) : Prop := c ∈ marks

instance (c : Char) : Decidable (IsMark c) :=
  inferInstanceAs (Decidable (c ∈ marks))

def isUnmarked (word : List Char) : Bool :=
  marks.all fun mark => !word.contains mark

theorem not_mem_of_isUnmarked {word : List Char} (unmarked : isUnmarked word = true) :
    ∀ mark, IsMark mark → mark ∉ word := by
  intro mark known inWord
  have absent := List.all_eq_true.mp unmarked mark known
  rw [List.contains_iff_mem.mpr inWord] at absent
  exact Bool.noConfusion absent

/-- A text cut in front of its control characters: what stands before the first of them, and a
stretch for each, in which the letters of its escape stand for it. -/
def cutAtControls : List Char → List Char × List (List Char)
  | [] => ([], [])
  | c :: rest =>
    let (stretch, others) := cutAtControls rest
    if c.toNat < 0x20 then ([], ((escapeChar c).tail ++ stretch) :: others)
    else (c :: stretch, others)

def stretches (text : List Char) : List (List Char) :=
  (cutAtControls text).1 :: (cutAtControls text).2

theorem cutAtControls_control {c : Char} (control : c.toNat < 0x20) (rest : List Char) :
    cutAtControls (c :: rest) =
      ([], ((escapeChar c).tail ++ (cutAtControls rest).1) :: (cutAtControls rest).2) :=
  if_pos control

theorem cutAtControls_visible {c : Char} (visible : ¬c.toNat < 0x20) (rest : List Char) :
    cutAtControls (c :: rest) = (c :: (cutAtControls rest).1, (cutAtControls rest).2) :=
  if_neg visible

theorem stretches_of_visible {text : List Char} (visible : ∀ c ∈ text, ¬c.toNat < 0x20) :
    stretches text = [text] := by
  have uncut : cutAtControls text = (text, []) := by
    induction text with
    | nil => rfl
    | cons c rest ih =>
        rw [cutAtControls_visible (visible c List.mem_cons_self),
          ih fun other inRest => visible other (List.mem_cons_of_mem c inRest)]
  rw [stretches, uncut]

theorem escapeChar_of_control {c : Char} (control : c.toNat < 0x20) :
    ∃ letters, escapeChar c = '\\' :: letters := by
  unfold escapeChar
  split_ifs
  all_goals exact ⟨_, rfl⟩

theorem escapeChar_of_visible {c : Char} (visible : ¬c.toNat < 0x20) :
    (IsMark c ∧ escapeChar c = ['\\', c]) ∨ escapeChar c = [c] := by
  have apart : ∀ control : Char, control.toNat < 0x20 → c ≠ control := by
    rintro control low rfl
    exact visible low
  by_cases quotation : c = '"'
  · subst c
    exact Or.inl ⟨by decide, rfl⟩
  by_cases backslash : c = '\\'
  · subst c
    exact Or.inl ⟨by decide, rfl⟩
  refine Or.inr ?_
  rw [escapeChar, if_neg quotation, if_neg backslash, if_neg (apart _ (by decide)),
    if_neg (apart _ (by decide)), if_neg (apart _ (by decide)), if_neg (apart _ (by decide)),
    if_neg (apart _ (by decide)), if_neg visible]

section Search

variable {α : Type} {find : List Char → Option α}

theorem escape_cons (c : Char) (rest : List Char) :
    escape (c :: rest) = escapeChar c ++ escape rest :=
  List.flatMap_cons

theorem append_escape_find (parts : PartsAt IsMark find) (front text : List Char) :
    find (front ++ escape text) =
      (find (front ++ (cutAtControls text).1)).or ((cutAtControls text).2.findSome? find) := by
  have backslash : IsMark '\\' := by decide
  -- A plain character joins what stands before it, an escape starts anew behind its backslash.
  induction text generalizing front with
  | nil =>
      rw [cutAtControls, List.findSome?_nil, Option.or_none]
      rfl
  | cons c rest ih =>
      have alone := ih []
      rw [List.nil_append, List.nil_append] at alone
      rw [escape_cons]
      by_cases control : c.toNat < 0x20
      · obtain ⟨letters, written⟩ := escapeChar_of_control control
        rw [cutAtControls_control control, written, List.cons_append, parts.split _ backslash,
          ih letters, List.append_nil, Text.findSome?_cons_or, List.tail_cons]
      · rw [cutAtControls_visible control]
        rcases escapeChar_of_visible control with ⟨mark, written⟩ | written
        · rw [written, List.cons_append, List.singleton_append, parts.split _ backslash,
            parts.cons mark, alone, parts.split _ mark, Option.or_assoc]
        · simpa [written] using ih (front ++ [c])

/-- An escaped text is searched stretch by stretch. -/
theorem escape_find (parts : PartsAt IsMark find) (text : List Char) :
    find (escape text) = (stretches text).findSome? find := by
  have parted := append_escape_find parts [] text
  rwa [List.nil_append, List.nil_append, ← Text.findSome?_cons_or] at parted

theorem stringText_find (parts : PartsAt IsMark find) (text : String) :
    find (stringText text) = (stretches text.toList).findSome? find := by
  have quotation : IsMark '"' := by decide
  rw [stringText, List.cons_append, parts.cons quotation, parts.concat quotation,
    escape_find parts]

end Search

mutual

/-- The texts that a search in the compact text of a value sees, each on its own. -/
def pieces : Json → List (List Char)
  | .null => ["null".toList]
  | .bool value => [if value then "true".toList else "false".toList]
  | .integer value => [integerText value]
  | .float value => [floatLayout.render value]
  | .string value => stretches value.toList
  | .array items => itemPieces items
  | .object members => memberPieces members

def itemPieces : List Json → List (List Char)
  | [] => []
  | item :: rest => pieces item ++ itemPieces rest

def memberPieces : List (String × Json) → List (List Char)
  | [] => []
  | (name, value) :: rest => stretches name.toList ++ pieces value ++ memberPieces rest

end

theorem mem_memberPieces {name : String} {value : Json} {members : List (String × Json)}
    (known : (name, value) ∈ members) {piece : List Char} (inValue : piece ∈ pieces value) :
    piece ∈ memberPieces members := by
  induction members with
  | nil => cases known
  | cons member rest ih =>
      rw [memberPieces]
      rcases List.mem_cons.mp known with same | later
      · subst member
        exact List.mem_append_left _ (List.mem_append_right _ inValue)
      · exact List.mem_append_right _ (ih later)

section Search

variable {α : Type} {find : List Char → Option α}

mutual

theorem compact_find (parts : PartsAt IsMark find) :
    ∀ value : Json, find (compact value) = (pieces value).findSome? find
  | .null => by rw [compact, pieces, List.findSome?_singleton]
  | .bool value => by rw [compact, pieces, List.findSome?_singleton]
  | .integer value => by rw [compact, pieces, List.findSome?_singleton]
  | .float value => by rw [compact, pieces, List.findSome?_singleton]
  | .string value => by rw [compact, pieces, stringText_find parts]
  | .array items => by
      rw [compact, pieces, parts.cons (by decide), compactItems_find parts]
  | .object members => by
      rw [compact, pieces, parts.cons (by decide), compactMembers_find parts]

theorem compactItems_find (parts : PartsAt IsMark find) :
    ∀ items : List Json, find (compactItems items) = (itemPieces items).findSome? find
  | [] => by
      rw [compactItems, itemPieces, parts.cons (by decide), parts.empty,
        List.findSome?_nil]
  | [item] => by
      rw [compactItems, parts.concat (by decide), compact_find parts item]
      simp [itemPieces]
  | item :: next :: rest => by
      rw [compactItems, itemPieces, parts.split _ (by decide), compact_find parts item,
        compactItems_find parts (next :: rest), List.findSome?_append]

theorem compactMembers_find (parts : PartsAt IsMark find) :
    ∀ members : List (String × Json),
      find (compactMembers members) = (memberPieces members).findSome? find
  | [] => by
      rw [compactMembers, memberPieces, parts.cons (by decide), parts.empty,
        List.findSome?_nil]
  | [(name, value)] => by
      rw [compactMembers, parts.concat (by decide),
        parts.split _ (by decide), stringText_find parts, compact_find parts value]
      simp [memberPieces]
  | (name, value) :: next :: rest => by
      rw [compactMembers, memberPieces, List.append_assoc, List.cons_append,
        parts.split _ (by decide), parts.split _ (by decide), stringText_find parts,
        compact_find parts value, compactMembers_find parts (next :: rest),
        List.findSome?_append, List.findSome?_append, Option.or_assoc]

end

end Search

end PipelineAdvisor.Json
