import PipelineAdvisor.Proofs.Yaml.MergedDocument

/-!
What a mapping gives for a key when the mappings under its merge key, and those under theirs, count
as well. Merging reads one level of them: a value that lies behind more than one merge key is lost.
-/

namespace PipelineAdvisor.Yaml.Node

variable {key : String} {entries : List (Node × Node)}

section Given

mutual

/-- The value for a key in a mapping, or in the first mapping of a sequence that has one, and how many
merge keys lie on the way to it. The entries of a mapping win over those under its merge key. -/
def givenBy? (key : String) : Node → Option (Nat × Node)
  | .mapping entries =>
    ((lookup? key entries).map fun value => (0, value)).or
      ((inheritedBy? key entries).map fun found => (found.1 + 1, found.2))
  | .sequence items => givenByFirst? key items
  | _ => none

def inheritedBy? (key : String) : List (Node × Node) → Option (Nat × Node)
  | [] => none
  | (name, value) :: rest =>
    if name.isString mergeKey then givenBy? key value else inheritedBy? key rest

def givenByFirst? (key : String) : List Node → Option (Nat × Node)
  | [] => none
  | .mapping entries :: rest => (givenBy? key (.mapping entries)).or (givenByFirst? key rest)
  | _ :: rest => givenByFirst? key rest

end

def inheritedFrom (entries : List (Node × Node)) : List (List (Node × Node)) :=
  ((lookup? mergeKey entries).map sources).getD []

def givenIn? (key : String) (entries : List (Node × Node)) : Option (Nat × Node) :=
  givenBy? key (.mapping entries)

/-- What a mapping gives if only the entries under its own merge key count. -/
def nearIn? (key : String) (entries : List (Node × Node)) : Option (Nat × Node) :=
  ((lookup? key entries).map fun value => (0, value)).or
    (((inheritedFrom entries).findSome? (lookup? key)).map fun value => (1, value))

theorem givenByFirst?_eq (key : String) (items : List Node) :
    givenByFirst? key items = (sources (.sequence items)).findSome? (givenIn? key) := by
  induction items with
  | nil => rfl
  | cons item rest ih =>
      cases item with
      | mapping entries =>
          rw [givenByFirst?, ih]
          simp only [sources, List.filterMap_cons, List.findSome?_cons, givenIn?]
          cases givenBy? key (.mapping entries) <;> rfl
      | _ => exact ih

theorem givenBy?_eq (key : String) (value : Node) :
    givenBy? key value = (sources value).findSome? (givenIn? key) := by
  cases value with
  | mapping entries =>
      simp only [sources, List.findSome?_cons, List.findSome?_nil, givenIn?]
      cases givenBy? key (.mapping entries) <;> rfl
  | sequence items => exact givenByFirst?_eq key items
  | _ => rfl

theorem inheritedBy?_eq (key : String) (entries : List (Node × Node)) :
    inheritedBy? key entries = (inheritedFrom entries).findSome? (givenIn? key) := by
  induction entries with
  | nil => rfl
  | cons entry rest ih =>
      obtain ⟨name, value⟩ := entry
      rw [inheritedBy?, inheritedFrom, lookup?, List.find?_cons]
      cases name.isString mergeKey with
      | true => exact givenBy?_eq key value
      | false => exact ih

theorem givenIn?_eq (key : String) (entries : List (Node × Node)) :
    givenIn? key entries = ((lookup? key entries).map fun value => (0, value)).or
      (((inheritedFrom entries).findSome? (givenIn? key)).map
        fun found => (found.1 + 1, found.2)) := by
  rw [givenIn?, givenBy?, inheritedBy?_eq]

end Given

section Near

theorem lookup?_of_givenIn?_eq_none (none : givenIn? key entries = none) :
    lookup? key entries = .none := by
  rw [givenIn?_eq, Option.or_eq_none_iff, Option.map_eq_none_iff] at none
  exact none.1

theorem lookup?_of_givenIn?_zero {value : Node} (given : givenIn? key entries = some (0, value)) :
    lookup? key entries = some value := by
  rw [givenIn?_eq] at given
  cases own : lookup? key entries with
  | none =>
      rw [own, Option.map_none, Option.none_or] at given
      obtain ⟨_, _, pair⟩ := Option.map_eq_some_iff.mp given
      cases pair
  | some other => simpa [own] using given

/-- Looking one level deep finds the value that a mapping gives, at its distance, just if it does
not lie further away. -/
theorem nearIn?_eq_givenIn?_iff : nearIn? key entries = givenIn? key entries ↔
    ∀ distance value, givenIn? key entries = some (distance, value) → distance ≤ 1 := by
  rw [nearIn?, givenIn?_eq]
  cases own : lookup? key entries with
  | some value => simp +contextual
  | none =>
      rw [Option.map_none, Option.none_or, Option.none_or]
      constructor
      · intro same distance value given
        rw [← same] at given
        obtain ⟨_, _, pair⟩ := Option.map_eq_some_iff.mp given
        exact (Prod.mk.inj pair).1 ▸ Nat.le_refl 1
      · intro near
        cases inherited : (inheritedFrom entries).findSome? (givenIn? key) with
        | none =>
            rw [List.findSome?_eq_none_iff] at inherited
            have missing : (inheritedFrom entries).findSome? (lookup? key) = .none :=
              List.findSome?_eq_none_iff.mpr fun source known =>
                lookup?_of_givenIn?_eq_none (inherited source known)
            rw [missing, Option.map_none, Option.map_none]
        | some found =>
            obtain ⟨distance, value⟩ := found
            have close := near (distance + 1) value (by rw [inherited]; rfl)
            obtain rfl : distance = 0 := by omega
            -- The mapping that gives the value has it itself, and those in front of it have none.
            obtain ⟨front, source, back, split, given, before⟩ :=
              List.findSome?_eq_some_iff.mp inherited
            have here : (inheritedFrom entries).findSome? (lookup? key) = some value :=
              List.findSome?_eq_some_iff.mpr ⟨front, source, back, split,
                lookup?_of_givenIn?_zero given,
                fun other known => lookup?_of_givenIn?_eq_none (before other known)⟩
            rw [here]
            rfl

end Near

section Merged

theorem lookup?_mergeEntries {merged : List (Node × Node)} (other : key ≠ mergeKey)
    (distinct : (Node.mapping entries).KeysDistinct) (accepted : mergeEntries entries = .ok merged) :
    lookup? key merged = (nearIn? key entries).map (·.2) := by
  have reading : (nearIn? key entries).map (·.2) =
      (lookup? key entries).or ((inheritedFrom entries).findSome? (lookup? key)) := by
    simp [nearIn?, Option.map_or, Function.comp_def]
  rw [reading]
  rcases mergeEntries_cases accepted with ⟨clean, rfl⟩ | ⟨front, value, back, rfl, clean, rfl⟩
  · rw [inheritedFrom, lookup?_eq_none_iff.mpr clean]
    simp
  · have brought : inheritedFrom (front ++ (.string mergeKey, value) :: back) = sources value := by
      rw [inheritedFrom, lookup?_append, lookup?_eq_none_iff.mpr clean]
      simp [lookup?, isString]
    -- The entry that moves into the place of the merge key has a key of its own, so no look-up sees
    -- the move.
    have passed : lookup? key (front ++ (.string mergeKey, value) :: back) =
        lookup? key (front ++ back) := by
      simp [lookup?, isString, other.symm]
    have less : (namedKeys (front ++ back)).Nodup :=
      distinct.names.sublist (namedKeys_sublist ((List.Sublist.refl front).append (by simp)))
    have moved := (lastFirst_perm back).symm.append_left front
    rw [lookup?_foldl_insertNew, lookup?_flatten, brought, passed, lookup?_perm moved less]

end Merged

section Node

def given? (node : Node) (key : String) : Option (Nat × Node) :=
  node.asMapping?.bind (givenIn? key)

def near? (node : Node) (key : String) : Option (Nat × Node) :=
  node.asMapping?.bind (nearIn? key)

def isGivenNear (node : Node) (key : String) : Bool :=
  (node.given? key).all fun found => found.1 ≤ 1

theorem near?_eq_given?_iff {node : Node} :
    node.near? key = node.given? key ↔ node.isGivenNear key = true := by
  rw [isGivenNear, near?, given?]
  cases node.asMapping? with
  | none => simp
  | some entries =>
      rw [Option.bind_some, Option.bind_some, nearIn?_eq_givenIn?_iff]
      simp [Option.all_eq_true]

/-- A merged node has, merged as well, the values that the node gives one level deep. -/
theorem get?_merge {node out : Node} (other : key ≠ mergeKey) (distinct : node.KeysDistinct)
    (accepted : node.merge = .ok out) :
    out.get? key = (node.near? key).bind fun found => found.2.merge.toOption := by
  rw [get?, near?]
  rcases asMapping?_merge accepted with
    ⟨missing, gone⟩ | ⟨entries, joined, merged, own, joins, values, isBody⟩
  · rw [missing, gone]
    rfl
  · have found := lookup?_mergeEntries other (distinct.entries_of_asMapping? own) joins
    rw [own, isBody, Option.bind_some, Option.bind_some]
    rcases lookup?_of_mergedValues values key with
      ⟨missing, gone⟩ | ⟨value, out, present, inner, here⟩
    · rw [missing] at found
      rw [gone, Option.map_eq_none_iff.mp found.symm]
      rfl
    · rw [present] at found
      obtain ⟨near, given, rfl⟩ := Option.map_eq_some_iff.mp found.symm
      rw [here, given, Option.bind_some, inner]
      rfl

end Node

end PipelineAdvisor.Yaml.Node
