import PipelineAdvisor.Proofs.Pipeline.Acceptance

/-!
What the entries of a workflow say, told from their nodes: which of them name a job, which wait for
another one, and which stand for an approval. What is read from an entry is what it says.
-/

namespace PipelineAdvisor

open Yaml (Node)

namespace Yaml.Node

theorem wraps_sequence_iff {node : Node} {items : List Node} :
    node.Wraps (.sequence items) ↔ node.asSequence? = some items := by
  rw [wraps_iff rfl, asSequence?]
  cases node.bare <;> simp

theorem KeysDistinct.of_wraps {node content : Node} (distinct : node.KeysDistinct)
    (wraps : node.Wraps content) : content.KeysDistinct := by
  induction wraps with
  | plain => exact distinct
  | tagged _ _ ih => exact ih distinct.content

theorem KeysDistinct.of_holds {node value : Node} {key : String} (distinct : node.KeysDistinct)
    (held : node.Holds key value) : value.KeysDistinct := by
  obtain ⟨entries, wraps, known⟩ := held
  exact (distinct.of_wraps wraps).values _ known

/-- A plain text, or a plain sequence with an item that is a text inside any tags. -/
inductive ListsText : Node → Prop where
  | text (text : String) : ListsText (.string text)
  | item {items : List Node} {item : Node} {text : String} (known : item ∈ items)
      (wraps : item.Wraps (.string text)) : ListsText (.sequence items)

theorem stringList_ne_nil_iff {value : Node} : stringList (some value) ≠ [] ↔ value.ListsText := by
  constructor
  · intro filled
    cases value with
    | string text => exact .text text
    | sequence items =>
        obtain ⟨text, listed⟩ := List.exists_mem_of_ne_nil _ filled
        obtain ⟨item, known, read⟩ := List.mem_filterMap.mp listed
        exact .item known (wraps_string_iff.mpr read)
    | _ => exact absurd rfl filled
  · intro lists
    cases lists with
    | text => simp [stringList]
    | item known wraps =>
        exact List.ne_nil_of_mem (List.mem_filterMap.mpr ⟨_, known, wraps_string_iff.mp wraps⟩)

end Yaml.Node

namespace JobReference

/-- An entry that names a job: a plain text, or a plain mapping whose first key is a text inside any
tags. -/
inductive Names : Node → String → Prop where
  | text (name : String) : Names (.string name) name
  | mapping {key options : Node} {rest : List (Node × Node)} {name : String}
      (named : key.Wraps (.string name)) : Names (.mapping ((key, options) :: rest)) name

inductive Gives : Node → Node → Prop where
  | mapping {key options : Node} {rest : List (Node × Node)} :
      Gives (.mapping ((key, options) :: rest)) options

def Waits (entry : Node) : Prop :=
  ∃ options value, Gives entry options ∧ options.Holds "requires" value ∧ value.ListsText

def Approves (entry : Node) : Prop :=
  ∃ options value, Gives entry options ∧ options.Holds "type" value ∧
    value.Wraps (.string "approval")

section Entry

variable {entry : Node} {reference : JobReference}

theorem ofNode?_cases (read : ofNode? entry = some reference) :
    (entry = .string reference.name ∧ reference.requires = [] ∧ reference.kind = .normal) ∨
      ∃ key options rest, entry = .mapping ((key, options) :: rest) ∧
        key.asString? = some reference.name ∧
        reference.requires = stringList (options.get? "requires") ∧
        (reference.kind = .approval ↔
          (options.get? "type").bind Node.asString? = some "approval") := by
  unfold ofNode? at read
  split at read
  next name =>
    obtain rfl := Option.some.inj read
    exact Or.inl ⟨rfl, rfl, rfl⟩
  next key options rest =>
    obtain ⟨name, text, rfl⟩ := Option.map_eq_some_iff.mp read
    refine Or.inr ⟨key, options, rest, rfl, text, rfl, ?_⟩
    by_cases approval : (options.get? "type").bind Node.asString? = some "approval"
    · simp [approval]
    · simp [approval]
  next => cases read

theorem names_iff {name : String} :
    Names entry name ↔ (ofNode? entry).map (·.name) = some name := by
  rw [Option.map_eq_some_iff]
  constructor
  · intro names
    cases names with
    | text => exact ⟨_, rfl, rfl⟩
    | mapping named =>
        rw [ofNode?, Node.wraps_string_iff.mp named]
        exact ⟨_, rfl, rfl⟩
  · rintro ⟨reference, read, rfl⟩
    rcases ofNode?_cases read with ⟨same, _⟩ | ⟨key, options, rest, same, text, _⟩
    · rw [same]
      exact .text reference.name
    · rw [same]
      exact .mapping (Node.wraps_string_iff.mpr text)

theorem Gives.keysDistinct {options : Node} (gives : Gives entry options)
    (distinct : entry.KeysDistinct) : options.KeysDistinct := by
  cases gives with
  | mapping => exact distinct.values _ List.mem_cons_self

theorem waits_iff (distinct : entry.KeysDistinct) (read : ofNode? entry = some reference) :
    Waits entry ↔ reference.requires ≠ [] := by
  rcases ofNode?_cases read with ⟨rfl, none, _⟩ | ⟨key, options, rest, rfl, _, listed, _⟩
  · constructor
    · rintro ⟨_, _, gives, _⟩
      cases gives
    · intro some
      exact absurd none some
  · have apart := (Gives.mapping.keysDistinct distinct).root
    rw [listed]
    constructor
    · rintro ⟨_, value, gives, held, lists⟩
      cases gives
      rw [(Node.holds_iff apart).mp held]
      exact Node.stringList_ne_nil_iff.mpr lists
    · intro filled
      cases held : options.get? "requires" with
      | none => exact absurd (by rw [held]; rfl) filled
      | some value =>
          rw [held] at filled
          exact ⟨options, value, .mapping, (Node.holds_iff apart).mpr held,
            Node.stringList_ne_nil_iff.mp filled⟩

theorem approves_iff (distinct : entry.KeysDistinct) (read : ofNode? entry = some reference) :
    Approves entry ↔ reference.kind = .approval := by
  rcases ofNode?_cases read with ⟨rfl, _, normal⟩ | ⟨key, options, rest, rfl, _, _, kind⟩
  · constructor
    · rintro ⟨_, _, gives, _⟩
      cases gives
    · intro approval
      rw [normal] at approval
      cases approval
  · have apart := (Gives.mapping.keysDistinct distinct).root
    rw [kind, Option.bind_eq_some_iff]
    constructor
    · rintro ⟨_, value, gives, held, wraps⟩
      cases gives
      exact ⟨value, (Node.holds_iff apart).mp held, Node.wraps_string_iff.mp wraps⟩
    · rintro ⟨value, held, text⟩
      exact ⟨options, value, .mapping, (Node.holds_iff apart).mpr held,
        Node.wraps_string_iff.mpr text⟩

end Entry

inductive NamesOf (chosen : Node → Prop) : List Node → List String → Prop where
  | nil : NamesOf chosen [] []
  | named {entry : Node} {rest : List Node} {name : String} {names : List String}
      (gives : Names entry name) (choice : chosen entry) (others : NamesOf chosen rest names) :
      NamesOf chosen (entry :: rest) (name :: names)
  | skipped {entry : Node} {rest : List Node} {names : List String}
      (none : ∀ name, Names entry name → ¬chosen entry) (others : NamesOf chosen rest names) :
      NamesOf chosen (entry :: rest) names

theorem namesOf_read {chosen : Node → Prop} {kept : JobReference → Bool} {entries : List Node}
    (agree : ∀ entry ∈ entries, ∀ reference, ofNode? entry = some reference →
      (chosen entry ↔ kept reference = true)) :
    NamesOf chosen entries (((entries.filterMap ofNode?).filter kept).map (·.name)) := by
  induction entries with
  | nil => exact .nil
  | cons entry rest ih =>
      have others := ih fun next known => agree next (List.mem_cons_of_mem entry known)
      have here := agree entry List.mem_cons_self
      cases read : ofNode? entry with
      | none =>
          rw [List.filterMap_cons_none read]
          refine .skipped ?_ others
          intro name names
          rw [names_iff, read] at names
          cases names
      | some reference =>
          have choice := here reference read
          rw [List.filterMap_cons_some read]
          by_cases keep : kept reference = true
          · rw [List.filter_cons_of_pos keep, List.map_cons]
            refine .named ?_ (choice.mpr keep) others
            rw [names_iff, read]
            rfl
          · rw [List.filter_cons_of_neg keep]
            refine .skipped ?_ others
            intro _ _ chosen
            exact keep (choice.mp chosen)

end JobReference

namespace Workflow

/-- The entries that the body of a workflow lists under its plain key `jobs`; without a sequence there
it lists none. -/
inductive Lists (fields : List (Node × Node)) : List Node → Prop where
  | sequence {value : Node} {entries : List Node} (held : (.string "jobs", value) ∈ fields)
      (wraps : value.Wraps (.sequence entries)) : Lists fields entries
  | none (absent : ∀ value, (.string "jobs", value) ∈ fields → ∀ entries,
      ¬value.Wraps (.sequence entries)) : Lists fields []

theorem Lists.keysDistinct {fields : List (Node × Node)} {entries : List Node}
    (lists : Lists fields entries) (distinct : (Node.mapping fields).KeysDistinct) :
    ∀ entry ∈ entries, entry.KeysDistinct := by
  cases lists with
  | sequence held wraps => exact ((distinct.values _ held).of_wraps wraps).items
  | none => simp

theorem lists_read {fields : List (Node × Node)} (distinct : (Node.namedKeys fields).Nodup) :
    Lists fields (((Node.lookup? "jobs" fields).bind Node.asSequence?).getD []) := by
  cases read : (Node.lookup? "jobs" fields).bind Node.asSequence? with
  | some entries =>
      obtain ⟨value, found, own⟩ := Option.bind_eq_some_iff.mp read
      exact .sequence ((Node.lookup?_eq_some_iff distinct).mp found)
        (Node.wraps_sequence_iff.mpr own)
  | none =>
      refine .none ?_
      intro value held entries wraps
      rw [(Node.lookup?_eq_some_iff distinct).mpr held, Option.bind_some,
        Node.wraps_sequence_iff.mp wraps] at read
      cases read

theorem ofMember?_eq_some_iff {member : Node × Node} {workflow : Workflow} :
    ofMember? member = some workflow ↔ member.1.Wraps (.string workflow.name) ∧
      ∃ fields, member.2.Wraps (.mapping fields) ∧ workflow.jobs =
        (((Node.lookup? "jobs" fields).bind Node.asSequence?).getD []).filterMap
          JobReference.ofNode? := by
  simp only [ofMember?, Option.bind_eq_bind, Option.bind_eq_some_iff, Node.wraps_string_iff,
    Node.wraps_mapping_iff]
  constructor
  · rintro ⟨name, text, fields, own, same⟩
    obtain rfl := Option.some.inj same
    exact ⟨text, fields, own, rfl⟩
  · rintro ⟨text, fields, own, jobs⟩
    exact ⟨workflow.name, text, fields, own, by rw [← jobs]; rfl⟩

end Workflow

end PipelineAdvisor
