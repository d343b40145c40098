import PipelineAdvisor.Json.Reader
import PipelineAdvisor.Proofs.Json.Numbers

/-!
Reading inverts writing. `Written` is what a text of a value may look like, with any blanks between
its parts; the reader takes such a text off the front of whatever follows it, unless a number would
run on. So it does not matter how a value was laid out.
-/

namespace PipelineAdvisor.Json

/-! ### Strings -/

theorem hexValue?_hexDigit : ∀ digit < 16, hexValue? (hexDigit digit) = some digit := by
  decide

theorem readString?_unicode {c : Char} (control : c.toNat < 0x20) (rest : List Char) :
    readString? ('\\' :: 'u' :: '0' :: '0' :: hexDigit (c.toNat / 16) :: hexDigit (c.toNat % 16) ::
      rest) = (readString? rest).map fun (text, rest) => (c :: text, rest) := by
  have high := hexValue?_hexDigit (c.toNat / 16) (by omega)
  have low := hexValue?_hexDigit (c.toNat % 16) (by omega)
  have quad : hexQuad? '0' '0' (hexDigit (c.toNat / 16)) (hexDigit (c.toNat % 16)) =
      some c.toNat := by
    have zero : hexValue? '0' = some 0 := by decide
    have total : ((0 * 16 + 0) * 16 + c.toNat / 16) * 16 + c.toNat % 16 = c.toNat := by omega
    simp only [hexQuad?, zero, high, low, Option.bind_eq_bind, Option.bind_some, total]
    rfl
  rw [readString?, quad]
  simp only [Option.bind_eq_bind, Option.bind_some]
  rw [if_neg (by omega), if_neg (by omega), Char.ofNat_toNat]
  cases readString? rest <;> rfl

theorem readString?_short {letter c : Char} (other : letter ≠ 'u')
    (stands : shortEscape? letter = some c) (rest : List Char) :
    readString? ('\\' :: letter :: rest) =
      (readString? rest).map fun (text, rest) => (c :: text, rest) := by
  rw [readString?]
  · rw [stands]
    cases readString? rest <;> rfl
  · intro _ _ _ _ _ isUnicode
    exact absurd isUnicode other

theorem readString?_plain {c : Char} (noQuote : c ≠ '"') (noBackslash : c ≠ '\\')
    (visible : ¬c.toNat < 0x20) (rest : List Char) :
    readString? (c :: rest) = (readString? rest).map fun (text, rest) => (c :: text, rest) := by
  rw [readString?]
  · rw [if_neg visible]
    cases readString? rest <;> rfl
  · exact noQuote
  · intro _ _ _ _ _ isBackslash
    exact absurd isBackslash noBackslash
  · intro _ _ isBackslash
    exact absurd isBackslash noBackslash

theorem readString?_escapeChar (c : Char) (rest : List Char) :
    readString? (escapeChar c ++ rest) =
      (readString? rest).map fun (text, rest) => (c :: text, rest) := by
  rw [escapeChar]
  split_ifs with quote backslash back feed newLine carriage tab control
  · subst quote
    exact readString?_short (by decide) rfl rest
  · subst backslash
    exact readString?_short (by decide) rfl rest
  · subst back
    exact readString?_short (by decide) rfl rest
  · subst feed
    exact readString?_short (by decide) rfl rest
  · subst newLine
    exact readString?_short (by decide) rfl rest
  · subst carriage
    exact readString?_short (by decide) rfl rest
  · subst tab
    exact readString?_short (by decide) rfl rest
  · exact readString?_unicode control rest
  · exact readString?_plain quote backslash control rest

theorem readString?_escape (text rest : List Char) :
    readString? (escape text ++ '"' :: rest) = some (text, rest) := by
  induction text with
  | nil => rw [escape, List.flatMap_nil, List.nil_append, readString?]
  | cons c text ih =>
      rw [escape] at ih ⊢
      rw [List.flatMap_cons, List.append_assoc, readString?_escapeChar, ih]
      rfl

theorem stringText_append (text : String) (rest : List Char) :
    stringText text ++ rest = '"' :: (escape text.toList ++ '"' :: rest) := by
  simp [stringText]

/-! ### The grammar -/

def Blank (text : List Char) : Prop :=
  ∀ c ∈ text, isSpace c = true

mutual

inductive Written : Json → List Char → Prop
  | null : Written .null "null".toList
  | yes : Written (.bool true) "true".toList
  | no : Written (.bool false) "false".toList
  | number {value : Json} {text : List Char} (number : NumberText value text) : Written value text
  | string (text : String) : Written (.string text) (stringText text)
  | noItems {inside : List Char} (blank : Blank inside) :
      Written (.array []) ('[' :: (inside ++ [']']))
  | array {before text : List Char} {items : List Json} (blank : Blank before)
      (written : WrittenItems items text) : Written (.array items) ('[' :: (before ++ text))
  | noMembers {inside : List Char} (blank : Blank inside) :
      Written (.object []) ('{' :: (inside ++ ['}']))
  | object {before text : List Char} {members : List (String × Json)} (blank : Blank before)
      (written : WrittenMembers members text) : Written (.object members) ('{' :: (before ++ text))

inductive WrittenItems : List Json → List Char → Prop
  | last {item : Json} {text after : List Char} (written : Written item text)
      (blank : Blank after) : WrittenItems [item] (text ++ (after ++ [']']))
  | more {item : Json} {items : List Json} {text after before others : List Char}
      (written : Written item text) (blank : Blank after) (nextBlank : Blank before)
      (rest : WrittenItems items others) :
      WrittenItems (item :: items) (text ++ (after ++ ',' :: (before ++ others)))

inductive WrittenMembers : List (String × Json) → List Char → Prop
  | last {name : String} {value : Json} {afterName before text after : List Char}
      (nameBlank : Blank afterName) (valueBlank : Blank before) (written : Written value text)
      (blank : Blank after) :
      WrittenMembers [(name, value)]
        (stringText name ++ (afterName ++ ':' :: (before ++ (text ++ (after ++ ['}'])))))
  | more {name : String} {value : Json} {members : List (String × Json)}
      {afterName before text after next others : List Char}
      (nameBlank : Blank afterName) (valueBlank : Blank before) (written : Written value text)
      (blank : Blank after) (nextBlank : Blank next) (rest : WrittenMembers members others) :
      WrittenMembers ((name, value) :: members)
        (stringText name ++
          (afterName ++ ':' :: (before ++ (text ++ (after ++ ',' :: (next ++ others))))))

end

/-! ### Reading a text of the grammar -/

theorem isNumberChar_of_isSpace {c : Char} (space : isSpace c = true) : isNumberChar c = false := by
  simp only [isSpace, Bool.or_eq_true, beq_iff_eq] at space
  rcases space with ((rfl | rfl) | rfl) | rfl <;> decide

theorem skipSpace_append {blanks text : List Char} (blank : Blank blanks)
    (solid : ∀ c ∈ text.head?, isSpace c = false) : skipSpace (blanks ++ text) = text :=
  dropWhile_run blank solid

theorem skipSpace_mark {blanks : List Char} (blank : Blank blanks) {c : Char}
    (solid : isSpace c = false) (rest : List Char) :
    skipSpace (blanks ++ c :: rest) = c :: rest :=
  skipSpace_append blank (by simpa using solid)

def EndsNumber (rest : List Char) : Prop :=
  ∀ c ∈ rest.head?, isNumberChar c = false

theorem endsNumber_blank {blanks : List Char} (blank : Blank blanks) {c : Char}
    (mark : isNumberChar c = false) (rest : List Char) : EndsNumber (blanks ++ c :: rest) := by
  intro first isFirst
  cases blanks with
  | nil =>
      cases isFirst
      exact mark
  | cons space others =>
      cases isFirst
      exact isNumberChar_of_isSpace (blank first (by simp))

theorem Written.starts {value : Json} {text : List Char} (written : Written value text) :
    ∃ c others, text = c :: others ∧ isSpace c = false ∧ c ≠ ']' := by
  cases written with
  | null => exact ⟨'n', _, rfl, by decide⟩
  | yes => exact ⟨'t', _, rfl, by decide⟩
  | no => exact ⟨'f', _, rfl, by decide⟩
  | number number =>
      obtain ⟨c, others, rfl⟩ := List.exists_cons_of_ne_nil number.filled
      have isNumber := number.chars c (by simp)
      refine ⟨c, others, rfl, ?_, ?_⟩
      · by_contra space
        rw [isNumberChar_of_isSpace (Bool.not_eq_false _ ▸ space)] at isNumber
        exact Bool.noConfusion isNumber
      · rintro rfl
        exact absurd isNumber (by decide)
  | string text => exact ⟨'"', _, rfl, by decide⟩
  | noItems blank => exact ⟨'[', _, rfl, by decide⟩
  | array blank written => exact ⟨'[', _, rfl, by decide⟩
  | noMembers blank => exact ⟨'{', _, rfl, by decide⟩
  | object blank written => exact ⟨'{', _, rfl, by decide⟩

theorem WrittenItems.starts {items : List Json} {text : List Char}
    (written : WrittenItems items text) :
    ∃ c others, text = c :: others ∧ isSpace c = false ∧ c ≠ ']' := by
  cases written with
  | last written blank =>
      obtain ⟨c, others, rfl, mark⟩ := written.starts
      exact ⟨c, _, rfl, mark⟩
  | more written blank nextBlank rest =>
      obtain ⟨c, others, rfl, mark⟩ := written.starts
      exact ⟨c, _, rfl, mark⟩

theorem WrittenMembers.starts {members : List (String × Json)} {text : List Char}
    (written : WrittenMembers members text) : ∃ others, text = '"' :: others := by
  cases written <;> exact ⟨_, rfl⟩

theorem Written.skipSpace_front {value : Json} {text : List Char} (written : Written value text)
    {blanks : List Char} (blank : Blank blanks) (rest : List Char) :
    skipSpace (blanks ++ (text ++ rest)) = text ++ rest := by
  obtain ⟨c, others, rfl, solid, -⟩ := written.starts
  exact skipSpace_mark blank solid (others ++ rest)

theorem readValue?_numberChar {c : Char} (isNumber : isNumberChar c = true)
    {text others : List Char} (front : skipSpace text = c :: others) (fuel : Nat) :
    readValue? (fuel + 1) text =
      (number? ((c :: others).takeWhile isNumberChar)).map fun value =>
        (value, (c :: others).dropWhile isNumberChar) := by
  have other : ∀ mark, isNumberChar mark = false → c ≠ mark := by
    rintro mark closed rfl
    rw [isNumber] at closed
    exact Bool.noConfusion closed
  rw [readValue?, front]
  split
  next same => cases same
  next same => exact absurd (List.cons.inj same).1 (other '"' (by decide))
  next same => exact absurd (List.cons.inj same).1 (other '[' (by decide))
  next same => exact absurd (List.cons.inj same).1 (other '{' (by decide))
  next same => exact absurd (List.cons.inj same).1 (other 'n' (by decide))
  next same => exact absurd (List.cons.inj same).1 (other 't' (by decide))
  next same => exact absurd (List.cons.inj same).1 (other 'f' (by decide))
  next => rfl

theorem NumberText.readValue? {value : Json} {text : List Char} (number : NumberText value text)
    {blanks rest : List Char} (blank : Blank blanks) (ends : EndsNumber rest) (fuel : Nat) :
    readValue? (fuel + 1) (blanks ++ (text ++ rest)) = some (value, rest) := by
  have front := takeWhile_run number.chars ends
  have back := dropWhile_run number.chars ends
  have solid := (Written.number number).skipSpace_front blank rest
  have reads := number.reads
  obtain ⟨c, others, rfl⟩ := List.exists_cons_of_ne_nil number.filled
  rw [List.cons_append] at front back solid
  rw [List.cons_append, readValue?_numberChar (number.chars c (by simp)) solid, front, back, reads]
  rfl

theorem readValue?_items {text rest others : List Char} {c : Char}
    (front : skipSpace text = '[' :: rest) (first : skipSpace rest = c :: others) (other : c ≠ ']')
    (fuel : Nat) : readValue? (fuel + 1) text =
      (readItems? fuel (c :: others)).map fun (items, rest) => (.array items, rest) := by
  rw [readValue?, front]
  simp only [first]
  split
  next same => exact absurd (List.cons.inj same).1 other
  next => rfl

/-- What the reader takes with so much fuel: the texts that are no longer than it. Every part of a
text is shorter than the whole by its brackets and marks, so one unit a level is enough. -/
structure ReadsUpTo (fuel : Nat) : Prop where
  value {value : Json} {text : List Char} (written : Written value text)
    (enough : text.length ≤ fuel) {blanks rest : List Char} (blank : Blank blanks)
    (ends : EndsNumber rest) : readValue? fuel (blanks ++ (text ++ rest)) = some (value, rest)
  items {items : List Json} {text : List Char} (written : WrittenItems items text)
    (enough : text.length ≤ fuel) {blanks : List Char} (blank : Blank blanks) (rest : List Char) :
    readItems? fuel (blanks ++ (text ++ rest)) = some (items, rest)
  members {members : List (String × Json)} {text : List Char}
    (written : WrittenMembers members text) (enough : text.length ≤ fuel) {blanks : List Char}
    (blank : Blank blanks) (rest : List Char) :
    readMembers? fuel (blanks ++ (text ++ rest)) = some (members, rest)

namespace ReadsUpTo

variable {fuel : Nat}

theorem value_succ (reads : ReadsUpTo fuel) {value : Json} {text : List Char}
    (written : Written value text) (enough : text.length ≤ fuel + 1) {blanks rest : List Char}
    (blank : Blank blanks) (ends : EndsNumber rest) :
    readValue? (fuel + 1) (blanks ++ (text ++ rest)) = some (value, rest) := by
  have solid := written.skipSpace_front blank rest
  cases written with
  | number number => exact number.readValue? blank ends fuel
  | null =>
      rw [readValue?, solid]
      rfl
  | yes =>
      rw [readValue?, solid]
      rfl
  | no =>
      rw [readValue?, solid]
      rfl
  | string text =>
      rw [readValue?, solid, stringText_append]
      simp only [readString?_escape, Option.map_some, String.ofList_toList]
  | @noItems inside insideBlank =>
      have close := skipSpace_mark insideBlank (c := ']') (by decide) rest
      rw [readValue?, solid, List.cons_append, List.append_assoc, List.singleton_append]
      simp only [close]
  | @array before text items beforeBlank written =>
      rw [List.length_cons, List.length_append] at enough
      have taken := reads.items written (by omega) (List.forall_mem_nil _) rest
      obtain ⟨c, others, rfl, mark, other⟩ := written.starts
      have first := skipSpace_mark beforeBlank mark (others ++ rest)
      rw [List.cons_append, List.append_assoc] at solid
      rw [List.cons_append, List.append_assoc, readValue?_items solid first other]
      rw [List.nil_append, List.cons_append] at taken
      rw [taken, Option.map_some]
  | @noMembers inside insideBlank =>
      have close := skipSpace_mark insideBlank (c := '}') (by decide) rest
      rw [readValue?, solid, List.cons_append, List.append_assoc, List.singleton_append]
      simp only [close]
  | @object before text members beforeBlank written =>
      rw [List.length_cons, List.length_append] at enough
      have taken := reads.members written (by omega) (List.forall_mem_nil _) rest
      obtain ⟨others, rfl⟩ := written.starts
      have first := skipSpace_mark beforeBlank (c := '"') (by decide) (others ++ rest)
      rw [readValue?, solid, List.cons_append, List.append_assoc, List.cons_append]
      rw [List.nil_append, List.cons_append] at taken
      simp only [first]
      exact congrArg (Option.map _) taken

theorem items_succ (reads : ReadsUpTo fuel) {items : List Json} {text : List Char}
    (written : WrittenItems items text) (enough : text.length ≤ fuel + 1) {blanks : List Char}
    (blank : Blank blanks) (rest : List Char) :
    readItems? (fuel + 1) (blanks ++ (text ++ rest)) = some (items, rest) := by
  cases written with
  | @last item text after written afterBlank =>
      simp only [List.length_append, List.length_singleton] at enough
      have close := skipSpace_mark afterBlank (c := ']') (by decide) rest
      have taken := reads.value written (by omega) blank
        (endsNumber_blank afterBlank (c := ']') (by decide) rest)
      simp only [List.append_assoc, List.singleton_append]
      rw [readItems?, taken]
      simp only [Option.bind_eq_bind, Option.bind_some, close]
      rfl
  | @more item items text after before others written afterBlank nextBlank more =>
      simp only [List.length_append, List.length_cons] at enough
      have comma := skipSpace_mark afterBlank (c := ',') (by decide) (before ++ (others ++ rest))
      have taken := reads.value written (by omega) blank
        (endsNumber_blank afterBlank (c := ',') (by decide) (before ++ (others ++ rest)))
      have followed := reads.items more (by omega) nextBlank rest
      simp only [List.append_assoc, List.cons_append]
      rw [readItems?, taken]
      simp only [Option.bind_eq_bind, Option.bind_some, comma, followed]
      rfl

theorem members_succ (reads : ReadsUpTo fuel) {members : List (String × Json)} {text : List Char}
    (written : WrittenMembers members text) (enough : text.length ≤ fuel + 1) {blanks : List Char}
    (blank : Blank blanks) (rest : List Char) :
    readMembers? (fuel + 1) (blanks ++ (text ++ rest)) = some (members, rest) := by
  cases written with
  | @last name value afterName before text after nameBlank valueBlank written afterBlank =>
      simp only [List.length_append, List.length_cons] at enough
      have close := skipSpace_mark afterBlank (c := '}') (by decide) rest
      have colon := skipSpace_mark nameBlank (c := ':') (by decide)
        (before ++ (text ++ (after ++ '}' :: rest)))
      have taken := reads.value written (by omega) valueBlank
        (endsNumber_blank afterBlank (c := '}') (by decide) rest)
      simp only [List.append_assoc, List.cons_append, List.nil_append]
      rw [stringText_append, readMembers?, skipSpace_mark blank (by decide)]
      simp only [readString?_escape, Option.bind_eq_bind, Option.bind_some, colon, taken, close,
        String.ofList_toList]
      rfl
  | @more name value members afterName before text after next others nameBlank valueBlank written
      afterBlank nextBlank more =>
      simp only [List.length_append, List.length_cons] at enough
      have comma := skipSpace_mark afterBlank (c := ',') (by decide) (next ++ (others ++ rest))
      have colon := skipSpace_mark nameBlank (c := ':') (by decide)
        (before ++ (text ++ (after ++ ',' :: (next ++ (others ++ rest)))))
      have taken := reads.value written (by omega) valueBlank
        (endsNumber_blank afterBlank (c := ',') (by decide) (next ++ (others ++ rest)))
      have followed := reads.members more (by omega) nextBlank rest
      simp only [List.append_assoc, List.cons_append]
      rw [stringText_append, readMembers?, skipSpace_mark blank (by decide)]
      simp only [readString?_escape, Option.bind_eq_bind, Option.bind_some, colon, taken, comma,
        followed, String.ofList_toList]
      rfl

end ReadsUpTo

theorem readsUpTo (fuel : Nat) : ReadsUpTo fuel := by
  induction fuel with
  | zero =>
      -- no text is empty
      refine ⟨fun written enough => ?_, fun written enough => ?_, fun written enough => ?_⟩
      · obtain ⟨c, others, rfl, -⟩ := written.starts
        exact absurd enough (by simp)
      · obtain ⟨c, others, rfl, -⟩ := written.starts
        exact absurd enough (by simp)
      · obtain ⟨others, rfl⟩ := written.starts
        exact absurd enough (by simp)
  | succ fuel ih => exact ⟨ih.value_succ, ih.items_succ, ih.members_succ⟩

/-- A text of a value, with blanks around it, reads back as the value. -/
theorem Written.read? {value : Json} {text before after : List Char} (written : Written value text)
    (beforeBlank : Blank before) (afterBlank : Blank after) :
    Json.read? (before ++ (text ++ after)) = some value := by
  have ends : EndsNumber after := by
    intro c first
    exact isNumberChar_of_isSpace (afterBlank c (List.mem_of_mem_head? first))
  have taken := (readsUpTo (2 * (before ++ (text ++ after)).length + 2)).value written
    (by simp only [List.length_append]; omega) beforeBlank ends
  have consumed : skipSpace after = [] := by
    have empty := @skipSpace_append after [] afterBlank (by simp)
    rwa [List.append_nil] at empty
  rw [Json.read?, taken]
  simp only [consumed]
  rfl

end PipelineAdvisor.Json
