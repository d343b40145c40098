import PipelineAdvisor.Proofs.Yaml.Keys

/-!
Nodes that differ at one place. A path leads there, from collection to collection; tags on the way do
not count. What is looked up beside the path is the same in both nodes.
-/

namespace PipelineAdvisor.Yaml.Node

/-- One step of a path: to the value of an entry, if its key is allowed, or to an item. -/
inductive Hop where
  | member (allowed : Node → Prop)
  | item

abbrev Hop.named (name : String) : Hop := .member (· = .string name)

abbrev Hop.anyMember : Hop := .member fun _ => True

/-- Nodes that agree but for the place at the end of a path, where they differ by a change. -/
inductive DiffersAt (change : Node → Node → Prop) : List Hop → Node → Node → Prop
  | here {node other : Node} : change node other → DiffersAt change [] node other
  | content {path : List Hop} {node other : Node} {tag : String} :
      DiffersAt change path node other → DiffersAt change path (.tagged tag node) (.tagged tag other)
  | member {path : List Hop} {allowed : Node → Prop} {key value other : Node}
      {front back : List (Node × Node)} :
      allowed key → DiffersAt change path value other →
        DiffersAt change (.member allowed :: path) (.mapping (front ++ (key, value) :: back))
          (.mapping (front ++ (key, other) :: back))
  | item {path : List Hop} {value other : Node} {front back : List Node} :
      DiffersAt change path value other →
        DiffersAt change (.item :: path) (.sequence (front ++ value :: back))
          (.sequence (front ++ other :: back))

theorem lookup?_replaced (name : String) (front back : List (Node × Node)) (key value other : Node) :
    lookup? name (front ++ (key, value) :: back) = lookup? name (front ++ (key, other) :: back) ∨
      key = .string name ∧ lookup? name (front ++ (key, value) :: back) = some value ∧
        lookup? name (front ++ (key, other) :: back) = some other := by
  rw [lookup?_append, lookup?_append]
  cases earlier : lookup? name front with
  | some found => exact Or.inl rfl
  | none =>
      rw [Option.none_or, Option.none_or, lookup?, lookup?, List.find?_cons, List.find?_cons]
      cases here : key.isString name with
      | false => exact Or.inl rfl
      | true => exact Or.inr ⟨isString_iff.mp here, rfl, rfl⟩

namespace DiffersAt

variable {change : Node → Node → Prop} {path : List Hop} {node other : Node}

theorem member_cases {allowed : Node → Prop}
    (differs : DiffersAt change (.member allowed :: path) node other) :
    (∃ tag content otherContent, node = .tagged tag content ∧ other = .tagged tag otherContent) ∨
      ∃ front key value otherValue back, allowed key ∧ DiffersAt change path value otherValue ∧
        node = .mapping (front ++ (key, value) :: back) ∧
        other = .mapping (front ++ (key, otherValue) :: back) := by
  cases differs with
  | content inside => exact Or.inl ⟨_, _, _, rfl, rfl⟩
  | member known inside => exact Or.inr ⟨_, _, _, _, _, known, inside, rfl, rfl⟩

theorem asMapping? {allowed : Node → Prop}
    (differs : DiffersAt change (.member allowed :: path) node other) :
    ∃ front key value otherValue back, allowed key ∧ DiffersAt change path value otherValue ∧
      node.asMapping? = some (front ++ (key, value) :: back) ∧
      other.asMapping? = some (front ++ (key, otherValue) :: back) := by
  generalize same : Hop.member allowed :: path = hops at differs
  induction differs with
  | here _ => cases same
  | content _ ih => exact ih same
  | member known inside =>
      cases same
      exact ⟨_, _, _, _, _, known, inside, rfl, rfl⟩
  | item _ => cases same

theorem asSequence? (differs : DiffersAt change (.item :: path) node other) :
    ∃ front item otherItem back, DiffersAt change path item otherItem ∧
      node.asSequence? = some (front ++ item :: back) ∧
      other.asSequence? = some (front ++ otherItem :: back) := by
  generalize same : Hop.item :: path = hops at differs
  induction differs with
  | here _ => cases same
  | content _ ih => exact ih same
  | member _ _ => cases same
  | item inside =>
      cases same
      exact ⟨_, _, _, _, inside, rfl, rfl⟩

/-- A look-up leaves the path or follows it. -/
theorem get? {allowed : Node → Prop}
    (differs : DiffersAt change (.member allowed :: path) node other) (name : String) :
    node.get? name = other.get? name ∨ allowed (.string name) ∧ ∃ value otherValue,
      DiffersAt change path value otherValue ∧ node.get? name = some value ∧
        other.get? name = some otherValue := by
  obtain ⟨front, key, value, otherValue, back, known, inside, own, others⟩ := differs.asMapping?
  rw [Node.get?, Node.get?, own, others, Option.bind_some, Option.bind_some]
  rcases lookup?_replaced name front back key value otherValue with same | ⟨rfl, here, there⟩
  · exact Or.inl same
  · exact Or.inr ⟨known, value, otherValue, inside, here, there⟩

theorem get?_eq {change : Node → Node → Prop} {name key : String}
    (differs : DiffersAt change (.named name :: path) node other) (apart : key ≠ name) :
    node.get? key = other.get? key := by
  rcases differs.get? key with same | ⟨reached, _⟩
  · exact same
  · exact absurd (Node.string.inj reached) apart

theorem bare_isScalar (collections : ∀ node other, change node other →
      node.bare.isScalar = false ∧ other.bare.isScalar = false)
    (differs : DiffersAt change path node other) :
    node.bare.isScalar = false ∧ other.bare.isScalar = false := by
  induction differs with
  | here changed => exact collections _ _ changed
  | content _ ih => exact ih
  | member _ _ => exact ⟨rfl, rfl⟩
  | item _ => exact ⟨rfl, rfl⟩

end DiffersAt

end PipelineAdvisor.Yaml.Node
