import PipelineAdvisor.Pipeline.Load
import PipelineAdvisor.Proofs.Yaml.MergedDocument

/-!
Where the jobs and workflows of a configuration come from. Each list is read from a section of the
document: the entries written there and those that their merge key brings in, one after the other,
each with its value merged like a document of its own.
-/

namespace PipelineAdvisor

open Yaml (Node)

namespace Yaml.Node

/-- The entries that a document writes under a name of its root, before their own merge key is
applied. A root that inherits the name from another mapping writes the entries there. -/
def writtenUnder (document : Node) (name : String) : List (Node × Node) :=
  ((document.asMapping?.bind fun root => (mergeEntries root).toOption).bind fun root =>
    (lookup? name root).bind asMapping?).getD []

theorem section_of_merge {document out : Node} (accepted : document.merge = .ok out)
    {root : List (Node × Node)} (found : out.asMapping? = some root) (name : String) :
    ∃ joined, mergeEntries (document.writtenUnder name) = .ok joined ∧
      List.Forall₂ MergedValue joined (((lookup? name root).bind asMapping?).getD []) := by
  have absent : document.writtenUnder name = [] → ∃ joined,
      mergeEntries (document.writtenUnder name) = .ok joined ∧
        List.Forall₂ MergedValue joined [] := by
    intro empty
    rw [empty]
    exact ⟨[], rfl, List.Forall₂.nil⟩
  rcases asMapping?_merge accepted with ⟨_, missing⟩ |
    ⟨entries, joined, merged, own, joins, values, isRoot⟩
  · rw [missing] at found
    cases found
  rw [isRoot] at found
  obtain rfl := Option.some.inj found
  have written : document.writtenUnder name = ((lookup? name joined).bind asMapping?).getD [] := by
    rw [writtenUnder, own, Option.bind_some, joins]
    rfl
  rcases lookup?_of_mergedValues values name with ⟨missing, gone⟩ | ⟨value, body, present, inner, here⟩
  · rw [missing] at written
    rw [gone]
    exact absent written
  rw [present, Option.bind_some] at written
  rw [here, Option.bind_some]
  rcases asMapping?_merge inner with ⟨missing, gone⟩ |
    ⟨entries, joined, merged, own, joins, values, isBody⟩
  · rw [missing] at written
    rw [gone]
    exact absent written
  · rw [own, Option.getD_some] at written
    rw [isBody, written]
    exact ⟨joined, joins, values⟩

theorem KeysDistinct.of_lookup? {entries : List (Node × Node)}
    (distinct : (Node.mapping entries).KeysDistinct) {key : String} {value : Node}
    (found : lookup? key entries = some value) : value.KeysDistinct := by
  obtain ⟨entry, present, rfl⟩ := Option.map_eq_some_iff.mp found
  exact distinct.values entry (List.mem_of_find?_eq_some present)

theorem KeysDistinct.writtenUnder {document : Node} (distinct : document.KeysDistinct)
    (name : String) : (Node.mapping (document.writtenUnder name)).KeysDistinct := by
  rw [Node.writtenUnder]
  cases found : (document.asMapping?.bind fun root => (Node.mergeEntries root).toOption).bind
      fun root => (lookup? name root).bind asMapping? with
  | none => exact KeysDistinct.mapping (by simp) (by simp)
  | some written =>
      simp only [Option.bind_eq_some_iff, toOption_eq_some_iff] at found
      obtain ⟨joined, ⟨root, isRoot, joins⟩, value, present, isMapping⟩ := found
      have whole := (distinct.entries_of_asMapping? isRoot).mergeEntries joins
      exact (whole.of_lookup? present).entries_of_asMapping? isMapping

end Yaml.Node

section Reading

def ReadFrom {α : Type} (make : Node × Node → Option α) (entry : Node × Node) (item : α) : Prop :=
  ∃ body, entry.2.merge = .ok body ∧ make (entry.1, body) = some item

theorem forall₂_filterMap {α β γ : Type} {related : α → β → Prop} {make : β → Option γ}
    {listed : α → Bool} (same : ∀ entry out, related entry out → listed entry = (make out).isSome)
    {entries : List α} {outs : List β} (pairs : List.Forall₂ related entries outs) :
    List.Forall₂ (fun entry item => ∃ out, related entry out ∧ make out = some item)
      (entries.filter listed) (outs.filterMap make) := by
  induction pairs with
  | nil => exact List.Forall₂.nil
  | @cons entry out rest others here later ih =>
      have agree := same entry out here
      cases made : make out with
      | none =>
          rw [made] at agree
          rw [List.filter_cons_of_neg (by simp [agree]), List.filterMap_cons_none made]
          exact ih
      | some item =>
          rw [made] at agree
          rw [List.filter_cons_of_pos (by simp [agree]), List.filterMap_cons_some made]
          exact List.Forall₂.cons ⟨out, here, made⟩ ih

theorem forall₂_readFrom {α : Type} {make : Node × Node → Option α} {listed : Node × Node → Bool}
    (same : ∀ entry out, Node.MergedValue entry out → listed entry = (make out).isSome)
    {joined merged : List (Node × Node)} (values : List.Forall₂ Node.MergedValue joined merged) :
    List.Forall₂ (ReadFrom make) (joined.filter listed) (merged.filterMap make) := by
  refine (forall₂_filterMap same values).imp ?_
  rintro entry item ⟨out, here, made⟩
  refine ⟨out.2, here.2, ?_⟩
  rw [← here.1]
  exact made

theorem texts_of_reads {α : Type} {make : Node × Node → Option α} {name : α → String}
    (keeps : ∀ entry item, make entry = some item → entry.1.asString? = some (name item))
    {entries : List (Node × Node)} {items : List α}
    (reads : List.Forall₂ (ReadFrom make) entries items) :
    entries.map (·.1.asString?) = (items.map name).map some := by
  induction reads with
  | nil => rfl
  | @cons entry item rest others here later ih =>
      obtain ⟨body, _, made⟩ := here
      rw [List.map_cons, ih, keeps _ item made]
      rfl

end Reading

def Job.ofMember? (entry : Node × Node) : Option Job :=
  entry.1.asString?.map fun name => Job.ofBody name entry.2

def Job.isMember (entry : Node × Node) : Bool :=
  entry.1.isNamed

def Workflow.isMember (entry : Node × Node) : Bool :=
  entry.1.isNamed && entry.2.asMapping?.isSome

theorem Job.isMember_eq {entry out : Node × Node} (merged : Node.MergedValue entry out) :
    Job.isMember entry = (Job.ofMember? out).isSome := by
  rw [Job.isMember, Job.ofMember?, Option.isSome_map, merged.1]
  rfl

theorem Workflow.isMember_eq {entry out : Node × Node} (merged : Node.MergedValue entry out) :
    Workflow.isMember entry = (Workflow.ofMember? out).isSome := by
  have shape : entry.2.asMapping?.isSome = out.2.asMapping?.isSome := by
    rcases Node.asMapping?_merge merged.2 with ⟨missing, gone⟩ | ⟨_, _, _, own, _, _, isBody⟩
    · rw [missing, gone]
    · rw [own, isBody]
      rfl
  rw [Workflow.isMember, shape, Workflow.ofMember?, merged.1, Node.isNamed]
  cases entry.1.asString? with
  | none => rfl
  | some name => cases out.2.asMapping? <;> rfl

theorem Job.name_of_member {entry : Node × Node} {job : Job} (made : Job.ofMember? entry = some job) :
    entry.1.asString? = some job.name := by
  obtain ⟨name, text, rfl⟩ := Option.map_eq_some_iff.mp made
  exact text

theorem Workflow.name_of_member {entry : Node × Node} {workflow : Workflow}
    (made : Workflow.ofMember? entry = some workflow) :
    entry.1.asString? = some workflow.name := by
  simp only [Workflow.ofMember?, Option.bind_eq_bind, Option.bind_eq_some_iff] at made
  obtain ⟨name, text, body, _, same⟩ := made
  obtain rfl := Option.some.inj same
  exact text

namespace Config

/-- The entries of a document from which the jobs and workflows of a configuration were read. -/
structure Source (config : Config) (document : Node) where
  /-- The section `jobs` with the entries that its merge key brings in. -/
  jobs : List (Node × Node)
  /-- The section `workflows` with the entries that its merge key brings in. -/
  workflows : List (Node × Node)
  joinsJobs : Node.mergeEntries (document.writtenUnder "jobs") = .ok jobs
  joinsWorkflows : Node.mergeEntries (document.writtenUnder "workflows") = .ok workflows
  readsJobs : List.Forall₂ (ReadFrom Job.ofMember?) (jobs.filter Job.isMember) config.jobs
  readsWorkflows : List.Forall₂ (ReadFrom Workflow.ofMember?)
    (workflows.filter Workflow.isMember) config.workflows

theorem jobsOf_eq_ok {root : List (Node × Node)} {jobs : List Job} (listed : jobsOf root = .ok jobs) :
    jobs = (((Node.lookup? "jobs" root).bind Node.asMapping?).getD []).filterMap Job.ofMember? := by
  rw [jobsOf] at listed
  split at listed
  next entries found =>
    rw [found]
    dsimp only at listed
    split at listed
    · cases listed
    · exact (Except.ok.inj listed).symm
  next => cases listed
  next => cases listed

theorem ofNode_source {document out : Node} {config : Config} (merged : document.merge = .ok out)
    (loaded : ofNode out = .ok config) : Nonempty (config.Source document) := by
  rw [ofNode] at loaded
  split at loaded
  next => cases loaded
  next root isRoot =>
    rw [bind_eq_ok_iff] at loaded
    obtain ⟨jobs, listed, same⟩ := loaded
    obtain rfl := Except.ok.inj same
    obtain ⟨jobEntries, joinsJobs, jobValues⟩ := Node.section_of_merge merged isRoot "jobs"
    obtain ⟨workflowEntries, joinsWorkflows, workflowValues⟩ :=
      Node.section_of_merge merged isRoot "workflows"
    obtain rfl := jobsOf_eq_ok listed
    exact ⟨jobEntries, workflowEntries, joinsJobs, joinsWorkflows,
      forall₂_readFrom (fun _ _ => Job.isMember_eq) jobValues,
      forall₂_readFrom (fun _ _ => Workflow.isMember_eq) workflowValues⟩

/-- Every accepted text is a document with distinct keys, and its jobs and workflows are read from
the sections of that document. -/
theorem parse_source {text : String} {config : Config} (accepted : parse text = .ok config) :
    ∃ document, Yaml.readNode text = .ok document ∧ document.KeysDistinct ∧
      Nonempty (config.Source document) := by
  rw [parse] at accepted
  split at accepted
  next => cases accepted
  next out read =>
    rw [Yaml.readMerged, bind_eq_ok_iff] at read
    obtain ⟨document, readDocument, read⟩ := read
    refine ⟨document, readDocument, Yaml.readNode_keysDistinct readDocument, ?_⟩
    split at read
    next inner merged =>
      obtain rfl := Except.ok.inj read
      cases loaded : ofNode inner with
      | error error =>
          rw [loaded] at accepted
          cases accepted
      | ok found =>
          rw [loaded] at accepted
          obtain rfl := Except.ok.inj accepted
          exact ofNode_source merged loaded
    next => cases read

namespace Source

variable {config : Config} {document : Node}

theorem jobs_keysDistinct (source : config.Source document) (distinct : document.KeysDistinct) :
    (Node.mapping source.jobs).KeysDistinct :=
  (distinct.writtenUnder "jobs").mergeEntries source.joinsJobs

theorem workflows_keysDistinct (source : config.Source document)
    (distinct : document.KeysDistinct) : (Node.mapping source.workflows).KeysDistinct :=
  (distinct.writtenUnder "workflows").mergeEntries source.joinsWorkflows

end Source

end Config

end PipelineAdvisor
