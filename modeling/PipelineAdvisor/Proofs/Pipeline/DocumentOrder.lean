import PipelineAdvisor.Proofs.Pipeline.Sections

/-!
The order of jobs and workflows. Applying the merge key of a section moves the last entry of the
section into its place, so what is written there keeps its order just if that move passes no other
job or workflow.
-/

namespace PipelineAdvisor

open Yaml (Node)

namespace Yaml.Node

def behindMergeKey : List (Node × Node) → List (Node × Node)
  | [] => []
  | entry :: rest => if entry.1.isString mergeKey then rest else behindMergeKey rest

/-- The listed entries that a section writes itself. -/
def ownEntries (listed : Node × Node → Bool) (written : List (Node × Node)) : List (Node × Node) :=
  written.filter fun entry => listed entry && !entry.1.isString mergeKey

/-- Whether the last entry of a section, which comes to stand in the place of the merge key, passes
no other listed entry if it is a listed one itself. -/
def MovesFreely (listed : Node × Node → Bool) (written : List (Node × Node)) : Prop :=
  ∀ middle last, behindMergeKey written = middle ++ [last] → listed last = true →
    ∀ entry ∈ middle, listed entry = false

theorem behindMergeKey_of_clean {written : List (Node × Node)}
    (clean : ∀ entry ∈ written, entry.1.isString mergeKey = false) :
    behindMergeKey written = [] := by
  induction written with
  | nil => rfl
  | cons entry rest ih =>
      rw [behindMergeKey, clean entry List.mem_cons_self]
      exact ih fun other inRest => clean other (List.mem_cons_of_mem entry inRest)

theorem behindMergeKey_append {front back : List (Node × Node)} {value : Node}
    (clean : ∀ entry ∈ front, entry.1.isString mergeKey = false) :
    behindMergeKey (front ++ (.string mergeKey, value) :: back) = back := by
  induction front with
  | nil => simp [behindMergeKey, isString]
  | cons entry rest ih =>
      rw [List.cons_append, behindMergeKey, clean entry List.mem_cons_self]
      exact ih fun other inRest => clean other (List.mem_cons_of_mem entry inRest)

theorem not_sublist_swap {α : Type} {list : List α} (distinct : list.Nodup) {first second : α}
    (forward : [first, second].Sublist list) : ¬[second, first].Sublist list := by
  intro backward
  induction list with
  | nil => cases forward
  | cons head rest ih =>
      rw [List.nodup_cons] at distinct
      cases forward with
      | cons _ forward =>
          cases backward with
          | cons _ backward => exact ih distinct.2 forward backward
          | cons_cons _ backward => exact distinct.1 (forward.subset (by simp))
      | cons_cons _ forward =>
          cases backward with
          | cons _ backward => exact distinct.1 (backward.subset (by simp))
          | cons_cons _ backward => exact distinct.1 (backward.subset (by simp))

theorem pair_sublist_namedKeys {entries : List (Node × Node)} {first second : Node × Node}
    (inOrder : [first, second].Sublist entries) (named : first.1.isNamed = true)
    (otherNamed : second.1.isNamed = true) : [first.1, second.1].Sublist (namedKeys entries) := by
  have keys := (inOrder.map Prod.fst).filter isNamed
  simpa [namedKeys, named, otherNamed] using keys

theorem ownEntries_sublist_filter (listed : Node × Node → Bool) (written : List (Node × Node)) :
    (ownEntries listed written).Sublist (written.filter listed) := by
  have twice : ownEntries listed written =
      (written.filter listed).filter fun entry => !entry.1.isString mergeKey := by
    rw [List.filter_filter]
    simp only [ownEntries, Bool.and_comm]
  rw [twice]
  exact List.filter_sublist

theorem ownEntries_append (listed : Node × Node → Bool) (front back : List (Node × Node)) :
    ownEntries listed (front ++ back) = ownEntries listed front ++ ownEntries listed back :=
  List.filter_append ..

section Order

variable {listed : Node × Node → Bool}

theorem ownEntries_sublist_lastFirst {back : List (Node × Node)}
    (free : ∀ middle last, back = middle ++ [last] → listed last = true →
      ∀ entry ∈ middle, listed entry = false) :
    (ownEntries listed back).Sublist ((lastFirst back).filter listed) := by
  rcases List.eq_nil_or_concat back with rfl | ⟨middle, last, rfl⟩
  · exact List.Sublist.refl _
  rw [List.concat_eq_append] at free ⊢
  have own := ownEntries_sublist_filter listed (middle ++ [last])
  rw [lastFirst_concat, List.filter_cons]
  rw [List.filter_append] at own
  cases isListed : listed last with
  | false =>
      rw [if_neg (by simp)]
      simpa [isListed] using own
  | true =>
      have none : middle.filter listed = [] := by
        rw [List.filter_eq_nil_iff]
        intro entry known
        simp [free middle last rfl isListed entry known]
      rw [if_pos rfl, none]
      simpa [none, isListed] using own

theorem KeysDistinct.isString_mergeKey_of_behind {front back : List (Node × Node)} {value : Node}
    (distinct : (Node.mapping (front ++ (.string mergeKey, value) :: back)).KeysDistinct) :
    ∀ entry ∈ back, entry.1.isString mergeKey = false := by
  intro entry known
  rw [Bool.eq_false_iff]
  intro isKey
  have names := distinct.names
  rw [namedKeys_append, namedKeys_cons] at names
  have inBack : Node.string mergeKey ∈ namedKeys back :=
    mem_namedKeys.mpr ⟨rfl, entry, known, isString_iff.mp isKey⟩
  exact (List.nodup_cons.mp (List.nodup_append.mp names).2.1).1 inBack

theorem not_ordered_of_passing {front middle added : List (Node × Node)} {value : Node}
    {last entry : Node × Node}
    (distinct : (Node.mapping
      (front ++ (.string mergeKey, value) :: (middle ++ [last]))).KeysDistinct)
    (joinedNames : (namedKeys (front ++ last :: middle ++ added)).Nodup)
    (named : ∀ entry, listed entry = true → entry.1.isNamed = true)
    (lastListed : listed last = true) (inMiddle : entry ∈ middle) (entryListed : listed entry = true) :
    ¬(ownEntries listed (front ++ (.string mergeKey, value) :: (middle ++ [last]))).Sublist
      ((front ++ last :: middle ++ added).filter listed) := by
  intro ordered
  -- The two would stand in both orders in the joined section, whose names are distinct.
  have alone : [entry].Sublist middle := List.singleton_sublist.mpr inMiddle
  have forward : [entry, last].Sublist
      (ownEntries listed (front ++ (.string mergeKey, value) :: (middle ++ [last]))) := by
    have apart := distinct.isString_mergeKey_of_behind
    have picked : [entry, last].filter (fun entry => listed entry && !entry.1.isString mergeKey) =
        [entry, last] := by
      simp [entryListed, lastListed, apart entry (by simp [inMiddle]), apart last (by simp)]
    have inside : [entry, last].Sublist (front ++ (.string mergeKey, value) :: (middle ++ [last])) :=
      ((alone.append (List.Sublist.refl [last])).cons _).trans (List.sublist_append_right _ _)
    have kept := inside.filter fun entry => listed entry && !entry.1.isString mergeKey
    rwa [picked] at kept
  have backward : [last, entry].Sublist (front ++ last :: middle ++ added) :=
    ((alone.cons_cons last).trans (List.sublist_append_right _ _)).trans
      (List.sublist_append_left _ _)
  have kept := (forward.trans ordered).trans List.filter_sublist
  exact not_sublist_swap joinedNames
    (pair_sublist_namedKeys kept (named entry entryListed) (named last lastListed))
    (pair_sublist_namedKeys backward (named last lastListed) (named entry entryListed))

theorem ownEntries_sublist_iff {written joined : List (Node × Node)}
    (distinct : (Node.mapping written).KeysDistinct) (joins : mergeEntries written = .ok joined)
    (named : ∀ entry, listed entry = true → entry.1.isNamed = true) :
    (ownEntries listed written).Sublist (joined.filter listed) ↔ MovesFreely listed written := by
  have joinedNames := (distinct.mergeEntries joins).names
  rcases mergeEntries_cases joins with ⟨clean, rfl⟩ | ⟨front, value, back, rfl, clean, rfl⟩
  · refine ⟨?_, fun _ => ownEntries_sublist_filter listed joined⟩
    intro _ middle last behind
    rw [behindMergeKey_of_clean clean] at behind
    simp at behind
  obtain ⟨added, same, _⟩ :=
    foldl_insertNew_eq_append (sources value).flatten (front ++ lastFirst back)
  rw [same] at joinedNames ⊢
  rw [MovesFreely, behindMergeKey_append clean]
  constructor
  · rintro ordered middle last rfl lastListed entry inMiddle
    rw [lastFirst_concat] at joinedNames ordered
    rw [Bool.eq_false_iff]
    intro entryListed
    exact not_ordered_of_passing distinct joinedNames named lastListed inMiddle entryListed ordered
  · intro free
    have dropped : ownEntries listed ((.string mergeKey, value) :: back) = ownEntries listed back :=
      List.filter_cons_of_neg (by simp [isString])
    rw [ownEntries_append, dropped, List.filter_append, List.filter_append]
    exact ((ownEntries_sublist_filter listed front).append
      (ownEntries_sublist_lastFirst free)).trans (List.sublist_append_left _ _)

end Order

end Yaml.Node

namespace Config

def ownNames (listed : Node × Node → Bool) (written : List (Node × Node)) : List String :=
  (Node.ownEntries listed written).filterMap (·.1.asString?)

theorem ownNames_sublist {α : Type} {make : Node × Node → Option α} {name : α → String}
    (keeps : ∀ entry item, make entry = some item → entry.1.asString? = some (name item))
    {listed : Node × Node → Bool} {written entries : List (Node × Node)} {items : List α}
    (reads : List.Forall₂ (ReadFrom make) entries items)
    (ordered : (Node.ownEntries listed written).Sublist entries) :
    (ownNames listed written).Sublist (items.map name) := by
  have texts := (ordered.map (·.1.asString?)).filterMap id
  rw [texts_of_reads keeps reads, List.filterMap_map, List.filterMap_map] at texts
  simpa [ownNames, Function.comp_def] using texts

/-- The jobs that an accepted text writes in its section keep their order just if the entry that is
moved into the place of the merge key passes none of them; then their names stand in this order in
the configuration. The same holds of workflows. -/
theorem parse_order_kept_iff {text : String} {config : Config}
    (accepted : parse text = .ok config) :
    ∃ document, Yaml.readNode text = .ok document ∧ ∃ source : config.Source document,
      ((Node.ownEntries Job.isMember (document.writtenUnder "jobs")).Sublist
          (source.jobs.filter Job.isMember) ↔
        Node.MovesFreely Job.isMember (document.writtenUnder "jobs")) ∧
      ((Node.ownEntries Workflow.isMember (document.writtenUnder "workflows")).Sublist
          (source.workflows.filter Workflow.isMember) ↔
        Node.MovesFreely Workflow.isMember (document.writtenUnder "workflows")) ∧
      (Node.MovesFreely Job.isMember (document.writtenUnder "jobs") →
        (ownNames Job.isMember (document.writtenUnder "jobs")).Sublist
          (config.jobs.map (·.name))) ∧
      (Node.MovesFreely Workflow.isMember (document.writtenUnder "workflows") →
        (ownNames Workflow.isMember (document.writtenUnder "workflows")).Sublist
          (config.workflows.map (·.name))) := by
  obtain ⟨document, read, distinct, ⟨source⟩⟩ := parse_source accepted
  have jobs := Node.ownEntries_sublist_iff (distinct.writtenUnder "jobs") source.joinsJobs
    fun entry (member : Job.isMember entry = true) => member
  have workflows := Node.ownEntries_sublist_iff (distinct.writtenUnder "workflows")
    source.joinsWorkflows fun entry (member : Workflow.isMember entry = true) => by
      rw [Workflow.isMember, Bool.and_eq_true] at member
      exact member.1
  refine ⟨document, read, source, jobs, workflows, ?_, ?_⟩
  · intro free
    exact ownNames_sublist (fun _ _ => Job.name_of_member) source.readsJobs (jobs.mpr free)
  · intro free
    exact ownNames_sublist (fun _ _ => Workflow.name_of_member) source.readsWorkflows
      (workflows.mpr free)

def mergeKeyLast : String :=
  "shared: &shared\n  lint: {}\njobs:\n  build: {}\n  test: {}\n  <<: *shared\n"

theorem parse_order_kept_iff_mergeKeyLast :
    ∃ config, parse mergeKeyLast = .ok config ∧ ∃ document,
      Yaml.readNode mergeKeyLast = .ok document ∧
        ownNames Job.isMember (document.writtenUnder "jobs") = ["build", "test"] ∧
        (ownNames Job.isMember (document.writtenUnder "jobs")).Sublist
          (config.jobs.map (·.name)) := by
  have readable : (parse mergeKeyLast).toOption.isSome = true := by
    decide +kernel
  have written : (Yaml.readNode mergeKeyLast).toOption.map (fun document =>
      (ownNames Job.isMember (document.writtenUnder "jobs"),
        (Node.behindMergeKey (document.writtenUnder "jobs")).length)) =
      some (["build", "test"], 0) := by
    decide +kernel
  obtain ⟨config, found⟩ := Option.isSome_iff_exists.mp readable
  have accepted := toOption_eq_some_iff.mp found
  obtain ⟨document, read, _, _, _, inOrder, _⟩ := parse_order_kept_iff accepted
  rw [read] at written
  obtain ⟨names, behind⟩ := Prod.mk.inj (Option.some.inj written)
  have free : Node.MovesFreely Job.isMember (document.writtenUnder "jobs") := by
    intro middle last same
    rw [List.length_eq_zero_iff.mp behind] at same
    simp at same
  exact ⟨config, accepted, document, read, names, inOrder free⟩

def mergeKeyFirst : String :=
  "shared: &shared\n  lint: {}\njobs:\n  <<: *shared\n  build: {}\n  test: {}\n"

theorem parse_moves_last_job :
    ∃ config document, parse mergeKeyFirst = .ok config ∧
      Yaml.readNode mergeKeyFirst = .ok document ∧
      ownNames Job.isMember (document.writtenUnder "jobs") = ["build", "test"] ∧
      config.jobs.map (·.name) = ["test", "build", "lint"] ∧
      ¬(ownNames Job.isMember (document.writtenUnder "jobs")).Sublist
        (config.jobs.map (·.name)) := by
  have parsed : (parse mergeKeyFirst).toOption.map (fun config => config.jobs.map (·.name)) =
      some ["test", "build", "lint"] := by
    decide +kernel
  have written : (Yaml.readNode mergeKeyFirst).toOption.map (fun document =>
      ownNames Job.isMember (document.writtenUnder "jobs")) = some ["build", "test"] := by
    decide +kernel
  obtain ⟨config, accepted, jobs⟩ := Option.map_eq_some_iff.mp parsed
  obtain ⟨document, read, names⟩ := Option.map_eq_some_iff.mp written
  refine ⟨config, document, toOption_eq_some_iff.mp accepted, toOption_eq_some_iff.mp read, names,
    jobs, ?_⟩
  rw [names, jobs]
  decide

end Config

end PipelineAdvisor
