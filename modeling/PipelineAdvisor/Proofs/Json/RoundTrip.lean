import PipelineAdvisor.Json.Printer
import PipelineAdvisor.Proofs.Json.Reading

/-!
What the printer writes is read back. Both layouts are texts of the grammar, so this holds of every
value whose numbers the format can hold: whole ones of 64 bits and finite doubles.
-/

namespace PipelineAdvisor.Json

/-- Values all of whose numbers can be written as numbers and read back. -/
inductive Exact : Json → Prop
  | null : Exact .null
  | bool (value : Bool) : Exact (.bool value)
  | integer {value : Int} (least : -2 ^ 63 ≤ value) (most : value < 2 ^ 64) :
      Exact (.integer value)
  | float {value : Binary64} (finite : value.isFinite = true) : Exact (.float value)
  | string (text : String) : Exact (.string text)
  | array {items : List Json} (each : ∀ item ∈ items, Exact item) : Exact (.array items)
  | object {members : List (String × Json)} (each : ∀ member ∈ members, Exact member.2) :
      Exact (.object members)

theorem blank_newLine (level : Nat) : Blank (newLine level) := by
  intro c known
  rw [newLine, List.mem_cons] at known
  rcases known with rfl | space
  · decide
  · rw [List.eq_of_mem_replicate space]
    decide

theorem blank_space : Blank [' '] := by
  simp [Blank, isSpace]

theorem written_bool (value : Bool) :
    Written (.bool value) (if value then "true".toList else "false".toList) := by
  cases value with
  | true => exact .yes
  | false => exact .no

theorem prettyItems_written {level : Nat} : ∀ {items : List Json}, items ≠ [] →
    (∀ item ∈ items, Written item (prettyAt (level + 1) item)) →
    ∃ text, prettyItems level items = newLine (level + 1) ++ text ∧ WrittenItems items text
  | [], filled, _ => absurd rfl filled
  | [item], _, each => by
      refine ⟨_, ?_, .last (each item (by simp)) (blank_newLine level)⟩
      rw [prettyItems, List.append_assoc, List.append_assoc]
  | item :: next :: rest, _, each => by
      obtain ⟨text, parts, written⟩ := prettyItems_written (by simp)
        fun item known => each item (List.mem_cons_of_mem _ known)
      refine ⟨_, ?_, .more (each item (by simp)) (List.forall_mem_nil _)
        (blank_newLine (level + 1)) written⟩
      rw [prettyItems, parts, List.append_assoc, List.nil_append]

theorem prettyMembers_written {level : Nat} : ∀ {members : List (String × Json)}, members ≠ [] →
    (∀ member ∈ members, Written member.2 (prettyAt (level + 1) member.2)) →
    ∃ text, prettyMembers level members = newLine (level + 1) ++ text ∧ WrittenMembers members text
  | [], filled, _ => absurd rfl filled
  | [(name, value)], _, each => by
      refine ⟨_, ?_, .last (List.forall_mem_nil _) blank_space (each _ List.mem_cons_self)
        (blank_newLine level)⟩
      simp [prettyMembers]
  | (name, value) :: next :: rest, _, each => by
      obtain ⟨text, parts, written⟩ := prettyMembers_written (by simp)
        fun member known => each member (List.mem_cons_of_mem _ known)
      refine ⟨_, ?_, .more (List.forall_mem_nil _) blank_space (each _ List.mem_cons_self)
        (List.forall_mem_nil _) (blank_newLine (level + 1)) written⟩
      rw [prettyMembers, parts]
      simp

theorem Exact.written_prettyAt {value : Json} (exact : Exact value) :
    ∀ level, Written value (prettyAt level value) := by
  induction exact with
  | null => exact fun _ => .null
  | bool value =>
      intro level
      rw [prettyAt]
      exact written_bool value
  | integer least most =>
      intro level
      rw [prettyAt]
      exact .number (numberText_integer least most)
  | float finite =>
      intro level
      rw [prettyAt]
      exact .number (numberText_float finite)
  | string text =>
      intro level
      rw [prettyAt]
      exact .string text
  | @array items each ih =>
      intro level
      cases items with
      | nil => exact .noItems (List.forall_mem_nil _)
      | cons item rest =>
          obtain ⟨text, parts, written⟩ :=
            prettyItems_written (List.cons_ne_nil item rest)
              fun item known => ih item known (level + 1)
          rw [prettyAt, parts]
          exact .array (blank_newLine (level + 1)) written
  | @object members each ih =>
      intro level
      cases members with
      | nil => exact .noMembers (List.forall_mem_nil _)
      | cons member rest =>
          obtain ⟨text, parts, written⟩ :=
            prettyMembers_written (List.cons_ne_nil member rest)
              fun member known => ih member known (level + 1)
          rw [prettyAt, parts]
          exact .object (blank_newLine (level + 1)) written

theorem compactItems_written : ∀ {items : List Json}, items ≠ [] →
    (∀ item ∈ items, Written item (compact item)) → WrittenItems items (compactItems items)
  | [], filled, _ => absurd rfl filled
  | [item], _, each => .last (each item (by simp)) (List.forall_mem_nil _)
  | item :: next :: rest, _, each =>
      .more (each item (by simp)) (List.forall_mem_nil _) (List.forall_mem_nil _)
        (compactItems_written (by simp) fun item known => each item (List.mem_cons_of_mem _ known))

theorem compactMembers_written : ∀ {members : List (String × Json)}, members ≠ [] →
    (∀ member ∈ members, Written member.2 (compact member.2)) →
    WrittenMembers members (compactMembers members)
  | [], filled, _ => absurd rfl filled
  | [(name, value)], _, each => by
      have written : WrittenMembers [(name, value)] _ :=
        .last (List.forall_mem_nil _) (List.forall_mem_nil _) (each _ List.mem_cons_self)
          (List.forall_mem_nil _)
      simpa [compactMembers] using written
  | (name, value) :: next :: rest, _, each => by
      have others := compactMembers_written (List.cons_ne_nil next rest)
        fun member known => each member (List.mem_cons_of_mem _ known)
      have written : WrittenMembers ((name, value) :: next :: rest) _ :=
        .more (List.forall_mem_nil _) (List.forall_mem_nil _) (each _ List.mem_cons_self)
          (List.forall_mem_nil _) (List.forall_mem_nil _) others
      simpa [compactMembers] using written

theorem Exact.written_compact {value : Json} (exact : Exact value) :
    Written value (compact value) := by
  induction exact with
  | null => exact .null
  | bool value =>
      rw [compact]
      exact written_bool value
  | integer least most =>
      rw [compact]
      exact .number (numberText_integer least most)
  | float finite =>
      rw [compact]
      exact .number (numberText_float finite)
  | string text => exact .string text
  | @array items each ih =>
      rw [compact]
      cases items with
      | nil => exact .noItems (List.forall_mem_nil _)
      | cons item rest =>
          exact .array (List.forall_mem_nil _) (compactItems_written (List.cons_ne_nil item rest) ih)
  | @object members each ih =>
      rw [compact]
      cases members with
      | nil => exact .noMembers (List.forall_mem_nil _)
      | cons member rest =>
          exact .object (List.forall_mem_nil _)
            (compactMembers_written (List.cons_ne_nil member rest) ih)

theorem Exact.read?_pretty {value : Json} (exact : Exact value) :
    read? value.pretty = some value := by
  have taken := (exact.written_prettyAt 0).read? (List.forall_mem_nil _) (List.forall_mem_nil _)
  rwa [List.append_nil, List.nil_append] at taken

theorem Exact.read?_compact {value : Json} (exact : Exact value) :
    read? value.compact = some value := by
  have taken := exact.written_compact.read? (List.forall_mem_nil _) (List.forall_mem_nil _)
  rwa [List.append_nil, List.nil_append] at taken

end PipelineAdvisor.Json
