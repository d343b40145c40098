import PipelineAdvisor.Proofs.Yaml.MergeKeys

/-!
Merging a whole document. The number of levels is only a bound for the recursion: a mapping is merged
by its own merge key first, and then every value in it is merged like a document of its own.
-/

namespace PipelineAdvisor.Yaml

namespace Node

section Depth

theorem depth_le_of_mem_items {items : List Node} {item : Node} (known : item ∈ items) :
    item.depth ≤ depthItems items := by
  induction items with
  | nil => cases known
  | cons head rest ih =>
      rw [depthItems]
      rcases List.mem_cons.mp known with rfl | later
      · exact Nat.le_max_left _ _
      · exact Nat.le_trans (ih later) (Nat.le_max_right _ _)

theorem depth_le_of_mem_entries {entries : List (Node × Node)} {entry : Node × Node}
    (known : entry ∈ entries) : entry.2.depth ≤ depthEntries entries := by
  induction entries with
  | nil => cases known
  | cons head rest ih =>
      rw [depthEntries]
      rcases List.mem_cons.mp known with rfl | later
      · exact Nat.le_trans (Nat.le_max_right _ _) (Nat.le_max_left _ _)
      · exact Nat.le_trans (ih later) (Nat.le_max_right _ _)

theorem depthEntries_lt_of_mem_sources {value : Node} {source : List (Node × Node)}
    (known : source ∈ sources value) : depthEntries source < value.depth := by
  cases value with
  | mapping entries =>
      obtain rfl := List.mem_singleton.mp known
      exact Nat.lt_succ_self _
  | sequence items =>
      obtain ⟨item, inItems, same⟩ := List.mem_filterMap.mp known
      cases item with
      | mapping entries =>
          obtain rfl := Option.some.inj same
          have inside := depth_le_of_mem_items inItems
          rw [depth] at inside
          rw [depth]
          omega
      | _ => cases same
  | _ => cases known

theorem depth_le_of_mem_mergeEntries {entries merged : List (Node × Node)}
    (accepted : mergeEntries entries = .ok merged) {entry : Node × Node} (known : entry ∈ merged) :
    entry.2.depth ≤ depthEntries entries := by
  rcases mem_mergeEntries accepted known with own | ⟨value, present, source, named, inSource⟩
  · exact depth_le_of_mem_entries own
  · have outer := depth_le_of_mem_entries present
    have middle := depthEntries_lt_of_mem_sources named
    have inner := depth_le_of_mem_entries inSource
    dsimp only at outer
    omega

end Depth

section Levels

variable {apply other : Node → Except MergeError Node}

theorem fromLast_congr {items : List Node} (same : ∀ item ∈ items, apply item = other item) :
    fromLast apply items = fromLast other items := by
  induction items with
  | nil => rfl
  | cons item rest ih =>
      rw [fromLast, fromLast, same item List.mem_cons_self,
        ih fun next inRest => same next (List.mem_cons_of_mem item inRest)]

theorem valuesFromLast_congr {entries : List (Node × Node)}
    (same : ∀ entry ∈ entries, apply entry.2 = other entry.2) :
    valuesFromLast apply entries = valuesFromLast other entries := by
  induction entries with
  | nil => rfl
  | cons entry rest ih =>
      obtain ⟨key, value⟩ := entry
      rw [valuesFromLast, valuesFromLast, same (key, value) List.mem_cons_self,
        ih fun next inRest => same next (List.mem_cons_of_mem _ inRest)]

theorem mergeWithin_eq {levels others : Nat} {node : Node} (enough : node.depth ≤ levels)
    (otherEnough : node.depth ≤ others) : mergeWithin levels node = mergeWithin others node := by
  -- By induction on the levels. The values of a mapping are those after its own merge key was applied,
  -- and none of them is deeper than the values before.
  induction levels generalizing others node with
  | zero =>
      cases node with
      | sequence items => rw [depth] at enough; omega
      | mapping entries => rw [depth] at enough; omega
      | tagged tag content => rw [depth] at enough; omega
      | _ => cases others <;> rfl
  | succ levels ih =>
      cases others with
      | zero =>
          cases node with
          | sequence items => rw [depth] at otherEnough; omega
          | mapping entries => rw [depth] at otherEnough; omega
          | tagged tag content => rw [depth] at otherEnough; omega
          | _ => rfl
      | succ others =>
          cases node with
          | sequence items =>
              rw [depth] at enough otherEnough
              rw [mergeWithin, mergeWithin, fromLast_congr]
              intro item known
              have inside := depth_le_of_mem_items known
              exact ih (by omega) (by omega)
          | mapping entries =>
              rw [depth] at enough otherEnough
              rw [mergeWithin, mergeWithin]
              cases accepted : mergeEntries entries with
              | error error => rfl
              | ok merged =>
                  have same : valuesFromLast (mergeWithin levels) merged =
                      valuesFromLast (mergeWithin others) merged := by
                    apply valuesFromLast_congr
                    intro entry known
                    have inside := depth_le_of_mem_mergeEntries accepted known
                    exact ih (by omega) (by omega)
                  simp only [bind, Except.bind, same]
          | tagged tag content =>
              rw [depth] at enough otherEnough
              have same : mergeWithin levels content = mergeWithin others content :=
                ih (by omega) (by omega)
              rw [mergeWithin, mergeWithin, same]
          | _ => rfl

theorem mergeWithin_eq_merge {levels : Nat} {node : Node} (enough : node.depth ≤ levels) :
    mergeWithin levels node = node.merge :=
  mergeWithin_eq enough (Nat.le_refl _)

/-- A mapping is merged by its own merge key and then value by value. -/
theorem merge_mapping (entries : List (Node × Node)) :
    (Node.mapping entries).merge = (do
      let merged ← mergeEntries entries
      let values ← valuesFromLast merge merged
      return .mapping values) := by
  rw [merge, depth, mergeWithin]
  cases accepted : mergeEntries entries with
  | error error => rfl
  | ok merged =>
      have same : valuesFromLast (mergeWithin (depthEntries entries)) merged =
          valuesFromLast merge merged :=
        valuesFromLast_congr fun entry known =>
          mergeWithin_eq_merge (depth_le_of_mem_mergeEntries accepted known)
      simp only [bind, Except.bind, same]

theorem merge_sequence (items : List Node) :
    (Node.sequence items).merge = (do
      let merged ← fromLast merge items
      return .sequence merged) := by
  have same : fromLast (mergeWithin (depthItems items)) items = fromLast merge items :=
    fromLast_congr fun item known => mergeWithin_eq_merge (depth_le_of_mem_items known)
  rw [merge, depth, mergeWithin, same]

theorem merge_tagged (tag : String) (content : Node) :
    (Node.tagged tag content).merge = (do
      let merged ← content.merge
      return .tagged tag merged) :=
  rfl

end Levels

section Values

def MergedValue (entry merged : Node × Node) : Prop :=
  merged.1 = entry.1 ∧ entry.2.merge = .ok merged.2

theorem valuesFromLast_eq_ok_iff {entries merged : List (Node × Node)} :
    valuesFromLast merge entries = .ok merged ↔ List.Forall₂ MergedValue entries merged := by
  induction entries generalizing merged with
  | nil =>
      rw [List.forall₂_nil_left_iff]
      exact ⟨fun same => (Except.ok.inj same).symm, by rintro rfl; rfl⟩
  | cons entry rest ih =>
      obtain ⟨key, value⟩ := entry
      simp only [valuesFromLast, bind_eq_ok_iff, ih, List.forall₂_cons_left_iff]
      constructor
      · rintro ⟨others, later, out, here, same⟩
        exact ⟨(key, out), others, ⟨rfl, here⟩, later, (Except.ok.inj same).symm⟩
      · rintro ⟨⟨otherKey, out⟩, others, ⟨sameKey, here⟩, later, rfl⟩
        obtain rfl : otherKey = key := sameKey
        exact ⟨others, later, out, here, rfl⟩

variable {entries merged : List (Node × Node)}

theorem lookup?_of_mergedValues (values : List.Forall₂ MergedValue entries merged) (key : String) :
    (lookup? key entries = none ∧ lookup? key merged = none) ∨
      ∃ value out, lookup? key entries = some value ∧ value.merge = .ok out ∧
        lookup? key merged = some out := by
  induction values with
  | nil => exact Or.inl ⟨rfl, rfl⟩
  | @cons entry out rest others here later ih =>
      simp only [lookup?, List.find?_cons, here.1] at ih ⊢
      cases entry.1.isString key with
      | true => exact Or.inr ⟨entry.2, out.2, rfl, here.2, rfl⟩
      | false => exact ih

theorem merge_mapping_eq_ok_iff {out : Node} :
    (Node.mapping entries).merge = .ok out ↔ ∃ joined merged, mergeEntries entries = .ok joined ∧
      List.Forall₂ MergedValue joined merged ∧ out = .mapping merged := by
  simp only [merge_mapping, bind_eq_ok_iff, valuesFromLast_eq_ok_iff]
  constructor
  · rintro ⟨joined, own, merged, values, same⟩
    exact ⟨joined, merged, own, values, (Except.ok.inj same).symm⟩
  · rintro ⟨joined, merged, own, values, rfl⟩
    exact ⟨joined, own, merged, values, rfl⟩

theorem asMapping?_merge : ∀ {node out : Node}, node.merge = .ok out →
    (node.asMapping? = none ∧ out.asMapping? = none) ∨
      ∃ entries joined merged, node.asMapping? = some entries ∧ mergeEntries entries = .ok joined ∧
        List.Forall₂ MergedValue joined merged ∧ out.asMapping? = some merged
  | .mapping entries, out, accepted => by
      obtain ⟨joined, merged, own, values, rfl⟩ := merge_mapping_eq_ok_iff.mp accepted
      exact Or.inr ⟨entries, joined, merged, rfl, own, values, rfl⟩
  | .tagged tag content, out, accepted => by
      rw [merge_tagged, bind_eq_ok_iff] at accepted
      obtain ⟨inner, found, same⟩ := accepted
      obtain rfl := Except.ok.inj same
      have inside := asMapping?_merge found
      exact inside
  | .sequence items, out, accepted => by
      rw [merge_sequence, bind_eq_ok_iff] at accepted
      obtain ⟨inner, found, same⟩ := accepted
      obtain rfl := Except.ok.inj same
      exact Or.inl ⟨rfl, rfl⟩
  | .null, out, accepted => by
      obtain rfl := Except.ok.inj accepted
      exact Or.inl ⟨rfl, rfl⟩
  | .bool value, out, accepted => by
      obtain rfl := Except.ok.inj accepted
      exact Or.inl ⟨rfl, rfl⟩
  | .number value, out, accepted => by
      obtain rfl := Except.ok.inj accepted
      exact Or.inl ⟨rfl, rfl⟩
  | .string text, out, accepted => by
      obtain rfl := Except.ok.inj accepted
      exact Or.inl ⟨rfl, rfl⟩

end Values

section Distinct

variable {apply : Node → Except MergeError Node} {holds : Node → Prop}

theorem fromLast_forall {items merged : List Node} (accepted : fromLast apply items = .ok merged)
    (each : ∀ item ∈ items, ∀ out, apply item = .ok out → holds out) :
    ∀ out ∈ merged, holds out := by
  induction items generalizing merged with
  | nil =>
      obtain rfl := Except.ok.inj accepted
      simp
  | cons item rest ih =>
      simp only [fromLast, bind_eq_ok_iff] at accepted
      obtain ⟨others, later, out, here, same⟩ := accepted
      obtain rfl := Except.ok.inj same
      have inRest := ih later fun next known => each next (List.mem_cons_of_mem item known)
      exact List.forall_mem_cons.mpr ⟨each item List.mem_cons_self out here, inRest⟩

theorem valuesFromLast_forall {entries merged : List (Node × Node)}
    (accepted : valuesFromLast apply entries = .ok merged)
    (each : ∀ entry ∈ entries, ∀ out, apply entry.2 = .ok out → holds out) :
    merged.map (·.1) = entries.map (·.1) ∧ ∀ entry ∈ merged, holds entry.2 := by
  induction entries generalizing merged with
  | nil =>
      obtain rfl := Except.ok.inj accepted
      simp
  | cons entry rest ih =>
      obtain ⟨key, value⟩ := entry
      simp only [valuesFromLast, bind_eq_ok_iff] at accepted
      obtain ⟨others, later, out, here, same⟩ := accepted
      obtain rfl := Except.ok.inj same
      obtain ⟨keys, values⟩ := ih later fun next known => each next (List.mem_cons_of_mem _ known)
      refine ⟨by rw [List.map_cons, List.map_cons, keys], ?_⟩
      exact List.forall_mem_cons.mpr ⟨each (key, value) List.mem_cons_self out here, values⟩

theorem KeysDistinct.mergeWithin {levels : Nat} {node out : Node} (distinct : node.KeysDistinct)
    (accepted : mergeWithin levels node = .ok out) : out.KeysDistinct := by
  induction levels generalizing node out with
  | zero =>
      obtain rfl := Except.ok.inj accepted
      exact distinct
  | succ levels ih =>
      cases node with
      | sequence items =>
          rw [Node.mergeWithin, bind_eq_ok_iff] at accepted
          obtain ⟨merged, values, same⟩ := accepted
          obtain rfl := Except.ok.inj same
          exact .sequence (fromLast_forall values fun item known _ => ih (distinct.items item known))
      | mapping entries =>
          simp only [Node.mergeWithin, bind_eq_ok_iff] at accepted
          obtain ⟨joined, own, merged, values, same⟩ := accepted
          obtain rfl := Except.ok.inj same
          have whole := distinct.mergeEntries own
          obtain ⟨keys, each⟩ :=
            valuesFromLast_forall values fun entry known _ => ih (whole.values entry known)
          refine .mapping ?_ each
          rw [namedKeys, keys]
          exact whole.names
      | tagged tag content =>
          rw [Node.mergeWithin, bind_eq_ok_iff] at accepted
          obtain ⟨merged, inside, same⟩ := accepted
          obtain rfl := Except.ok.inj same
          exact .tagged (ih distinct.content inside)
      | _ =>
          obtain rfl := Except.ok.inj accepted
          exact distinct

theorem KeysDistinct.merge {node out : Node} (distinct : node.KeysDistinct)
    (accepted : node.merge = .ok out) : out.KeysDistinct :=
  distinct.mergeWithin accepted

end Distinct

end Node

theorem readMerged_keysDistinct {text : String} {document : Node}
    (read : readMerged text = .ok document) : document.KeysDistinct := by
  rw [readMerged, bind_eq_ok_iff] at read
  obtain ⟨node, own, read⟩ := read
  split at read
  next inner merged =>
    obtain rfl := Except.ok.inj read
    exact (readNode_keysDistinct own).merge merged
  next => cases read

end PipelineAdvisor.Yaml
