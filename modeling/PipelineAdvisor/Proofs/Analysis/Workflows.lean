import PipelineAdvisor.Proofs.Analysis.Bounds
import PipelineAdvisor.Proofs.Pipeline.WorkflowEntries

/-!
What a report says about a workflow, told from the entries of its document: how many of them wait for
no other job, and whether a long list of them has an approval.
-/

namespace PipelineAdvisor

open Check
open Yaml (Node)

namespace Check

section Found

variable {workflow : Workflow} {finding : Finding}

theorem mem_fanOut_iff : finding ∈ Check.fanOut.ofWorkflow workflow ↔
    2 ≤ workflow.independentJobs.length ∧
      finding = Parallelism.fanOut workflow (workflow.independentJobs.map (·.name)) := by
  simp only [ofWorkflow, Parallelism.inspectWorkflow?, Option.mem_toList,
    Option.ite_none_left_eq_some, List.length_map, Nat.not_lt, Option.some.injEq]
  exact and_congr_right fun _ => eq_comm

theorem mem_missingApproval_iff : finding ∈ missingApproval.ofWorkflow workflow ↔
    (3 < workflow.jobs.length ∧ ∀ reference ∈ workflow.jobs, reference.kind ≠ .approval) ∧
      finding = ApprovalGate.missing workflow := by
  have missing : ApprovalGate.isMissing workflow = true ↔
      3 < workflow.jobs.length ∧ ∀ reference ∈ workflow.jobs, reference.kind ≠ .approval := by
    rw [ApprovalGate.isMissing, Bool.and_eq_true, decide_eq_true_eq]
    exact and_congr_right fun _ => by simp [Workflow.hasApprovalGate]
  rw [ofWorkflow, List.mem_ite_nil_right, List.mem_singleton, missing]

theorem reported_iff {config : Config} (check : Check) {rule : String} (names : check.names = [rule])
    (ofWorkflows : check.isOfJobs = false) (inConfig : workflow ∈ config.workflows)
    (single : ∀ other ∈ config.workflows, other.name = workflow.name → other = workflow) :
    (finding ∈ (analyze config).findings ∧
        finding.id = Finding.idOf check.category rule workflow.name) ↔
      finding ∈ check.ofWorkflow workflow := by
  constructor
  · rintro ⟨reported, id⟩
    have known : rule ∈ check.names := names ▸ List.mem_singleton_self rule
    rcases found_of_id known reported id with ⟨job, _, _, found⟩ | ⟨other, inOther, same, found⟩
    · rw [ofJob_isOfJobs found] at ofWorkflows
      cases ofWorkflows
    · exact single other inOther same ▸ found
  · intro found
    have emits : finding ∈ check.emitted config :=
      List.mem_append_right _ (List.mem_flatMap.mpr ⟨workflow, inConfig, found⟩)
    obtain ⟨name, known, id⟩ := (ofWorkflow_form found).id
    rw [names] at known
    obtain rfl := List.mem_singleton.mp known
    exact ⟨mem_analyze_findings.mpr ⟨check, emits⟩, id⟩

end Found

end Check

namespace Config

section Accepted

variable {text : String} {document : Node} {config : Config}

theorem mem_workflows_iff (read : Yaml.readMerged text = .ok document)
    (accepted : parse text = .ok config) {value : Node} {members : List (Node × Node)}
    (held : document.Holds "workflows" value) (own : value.Wraps (.mapping members))
    {workflow : Workflow} :
    workflow ∈ config.workflows ↔ ∃ member ∈ members, Workflow.ofMember? member = some workflow := by
  have found := (Node.holds_iff (Yaml.readMerged_keysDistinct read).root).mp held
  rw [parse, read] at accepted
  dsimp only at accepted
  rw [ofNode_eq (Node.isSome_asMapping?_of_get? found), found] at accepted
  cases listed : jobsUnder (document.get? "jobs") with
  | error error =>
      rw [listed] at accepted
      cases accepted
  | ok jobs =>
      rw [listed] at accepted
      obtain rfl := Except.ok.inj accepted
      rw [workflowsUnder, Option.bind_some, Node.wraps_mapping_iff.mp own]
      exact List.mem_filterMap

end Accepted

end Config

/-- What a report says about a workflow with these entries. Of the names of the jobs that wait for no
other job, and of the names of all jobs, none is left out and none moved. -/
structure AnalysisResult.TellsWorkflow (result : AnalysisResult) (name : String)
    (entries : List Node) : Prop where
  fanOut : ∃ independent, JobReference.NamesOf (fun entry => ¬JobReference.Waits entry) entries
      independent ∧
    (result.Reports .parallel "workflow" name ↔ 2 ≤ independent.length) ∧
    ∀ finding ∈ result.findings, finding.id = Finding.idOf .parallel "workflow" name →
      finding.affectedJobs = independent ∧
        finding.time? = some s!"{min (2 * independent.length) 10} min"
  approval : ∃ names, JobReference.NamesOf (fun _ => True) entries names ∧
    (result.Reports .workflow "approval" name ↔ 3 < names.length ∧
      ∀ entry ∈ entries, ∀ job, JobReference.Names entry job → ¬JobReference.Approves entry) ∧
    ∀ finding ∈ result.findings, finding.id = Finding.idOf .workflow "approval" name →
      finding.affectedJobs = names

section Reported

variable {config : Config} {workflow : Workflow} {entries : List Node}

theorem independent_names (distinct : ∀ entry ∈ entries, entry.KeysDistinct)
    (jobs : workflow.jobs = entries.filterMap JobReference.ofNode?) :
    JobReference.NamesOf (fun entry => ¬JobReference.Waits entry) entries
      (workflow.independentJobs.map (·.name)) := by
  rw [Workflow.independentJobs, jobs]
  apply JobReference.namesOf_read
  intro entry known reference read
  rw [JobReference.waits_iff (distinct entry known) read, not_not, List.isEmpty_iff]

theorem all_names (jobs : workflow.jobs = entries.filterMap JobReference.ofNode?) :
    JobReference.NamesOf (fun _ => True) entries (workflow.jobs.map (·.name)) := by
  have all := @JobReference.namesOf_read (fun _ => True) (fun _ => true) entries
    fun _ _ _ _ => by simp
  rwa [List.filter_true, ← jobs] at all

theorem no_approval_iff (distinct : ∀ entry ∈ entries, entry.KeysDistinct)
    (jobs : workflow.jobs = entries.filterMap JobReference.ofNode?) :
    (∀ reference ∈ workflow.jobs, reference.kind ≠ .approval) ↔
      ∀ entry ∈ entries, ∀ job, JobReference.Names entry job → ¬JobReference.Approves entry := by
  rw [jobs]
  constructor
  · intro none entry known job gives approves
    obtain ⟨reference, read, _⟩ := Option.map_eq_some_iff.mp (JobReference.names_iff.mp gives)
    exact none reference (List.mem_filterMap.mpr ⟨entry, known, read⟩)
      ((JobReference.approves_iff (distinct entry known) read).mp approves)
  · intro none reference listed approval
    obtain ⟨entry, known, read⟩ := List.mem_filterMap.mp listed
    have gives : JobReference.Names entry reference.name := by
      rw [JobReference.names_iff, read]
      rfl
    exact none entry known reference.name gives
      ((JobReference.approves_iff (distinct entry known) read).mpr approval)

theorem tellsWorkflow (inConfig : workflow ∈ config.workflows)
    (single : ∀ other ∈ config.workflows, other.name = workflow.name → other = workflow)
    (distinct : ∀ entry ∈ entries, entry.KeysDistinct)
    (jobs : workflow.jobs = entries.filterMap JobReference.ofNode?) :
    (analyze config).TellsWorkflow workflow.name entries := by
  have fanOuts {finding : Finding} :=
    @reported_iff workflow finding config Check.fanOut _ rfl rfl inConfig single
  have approvals {finding : Finding} :=
    @reported_iff workflow finding config missingApproval _ rfl rfl inConfig single
  constructor
  · refine ⟨_, independent_names distinct jobs, ?_, ?_⟩
    · rw [List.length_map]
      constructor
      · rintro ⟨finding, reported⟩
        exact (mem_fanOut_iff.mp (fanOuts.mp reported)).1
      · intro several
        exact ⟨_, fanOuts.mpr (mem_fanOut_iff.mpr ⟨several, rfl⟩)⟩
    · intro finding reported id
      obtain ⟨_, rfl⟩ := mem_fanOut_iff.mp (fanOuts.mp ⟨reported, id⟩)
      exact ⟨rfl, rfl⟩
  · refine ⟨_, all_names jobs, ?_, ?_⟩
    · rw [List.length_map, ← no_approval_iff distinct jobs]
      constructor
      · rintro ⟨finding, reported⟩
        exact (mem_missingApproval_iff.mp (approvals.mp reported)).1
      · intro long
        exact ⟨_, approvals.mpr (mem_missingApproval_iff.mpr ⟨long, rfl⟩)⟩
    · intro finding reported id
      obtain ⟨_, rfl⟩ := mem_missingApproval_iff.mp (approvals.mp ⟨reported, id⟩)
      rfl

end Reported

/-- In an accepted text, let a member of the section of workflows be the only workflow of its name. The
report tells what its entries say: the fan-out just if two of them wait for no other job, and the missing
approval just if more than three name a job and none of these is an approval. -/
theorem analyze_tellsWorkflow {text : String} {document : Node} {config : Config}
    (read : Yaml.readMerged text = .ok document) (accepted : Config.parse text = .ok config)
    {value : Node} {members : List (Node × Node)} (held : document.Holds "workflows" value)
    (own : value.Wraps (.mapping members)) {key body : Node} (known : (key, body) ∈ members)
    {name : String} (named : key.Wraps (.string name)) {fields : List (Node × Node)}
    (isBody : body.Wraps (.mapping fields))
    (single : ∀ other ∈ members, other.1.Wraps (.string name) →
      ∀ otherFields, other.2.Wraps (.mapping otherFields) → other = (key, body)) :
    ∃ entries, Workflow.Lists fields entries ∧ (analyze config).TellsWorkflow name entries := by
  let workflow : Workflow :=
    { name
      jobs := (((Node.lookup? "jobs" fields).bind Node.asSequence?).getD []).filterMap
        JobReference.ofNode? }
  have made : Workflow.ofMember? (key, body) = some workflow :=
    Workflow.ofMember?_eq_some_iff.mpr ⟨named, fields, isBody, rfl⟩
  have inConfig : workflow ∈ config.workflows :=
    (Config.mem_workflows_iff read accepted held own).mpr ⟨_, known, made⟩
  have alone : ∀ other ∈ config.workflows, other.name = workflow.name → other = workflow := by
    intro other inOther same
    obtain ⟨member, listed, otherMade⟩ :=
      (Config.mem_workflows_iff read accepted held own).mp inOther
    obtain ⟨otherNamed, otherFields, otherBody, _⟩ :=
      Workflow.ofMember?_eq_some_iff.mp otherMade
    rw [same] at otherNamed
    rw [single member listed otherNamed otherFields otherBody, made] at otherMade
    exact (Option.some.inj otherMade).symm
  -- Every entry is a part of the document, whose mappings have distinct keys.
  have whole := Yaml.readMerged_keysDistinct read
  have inMembers := (whole.of_holds held).of_wraps own
  have inBody := (inMembers.values _ known).of_wraps isBody
  have lists := Workflow.lists_read inBody.names
  exact ⟨_, lists, tellsWorkflow inConfig alone (lists.keysDistinct inBody) rfl⟩

def mixedEntries : String :=
  "jobs: \x7blint: 1\x7d\nworkflows:\n  !ci main:\n    jobs:\n    - lint\n    - build: \x7brequires: [1]\x7d\n" ++
    "    - test: \x7brequires: [!old lint, 2]\x7d\n    - deploy: \x7brequires: build\x7d\n      more: 1\n" ++
    "    - !later hold\n"

def mixedWorkflow : Workflow where
  name := "main"
  jobs := [{ name := "lint" }, { name := "build" }, { name := "test", requires := ["lint"] },
    { name := "deploy", requires := ["build"] }]

theorem analyze_tellsWorkflow_mixedEntries :
    ∃ config fields entries, Config.parse mixedEntries = .ok config ∧
      config.workflows = [mixedWorkflow] ∧ Workflow.Lists fields entries ∧
      (analyze config).TellsWorkflow mixedWorkflow.name entries := by
  have reads : ((Yaml.readMerged mixedEntries).toOption.bind fun document =>
      (Config.ofNode document).toOption.bind fun config =>
      (document.get? "workflows").bind fun value => value.asMapping?.map fun members =>
        (config.workflows,
          members.map fun member => (member.1.asString?, member.2.asMapping?.isSome))) =
      some ([mixedWorkflow], [(some mixedWorkflow.name, true)]) := by
    decide +kernel
  simp only [Option.bind_eq_some_iff, Option.map_eq_some_iff, toOption_eq_some_iff,
    Prod.mk.injEq] at reads
  obtain ⟨document, read, config, loaded, value, found, members, own, workflows, shape⟩ := reads
  have accepted : Config.parse mixedEntries = .ok config := by
    rw [Config.parse, read]
    simp only [loaded]
    rfl
  have held := (Node.holds_iff (Yaml.readMerged_keysDistinct read).root).mpr found
  obtain ⟨⟨key, body⟩, rfl, one⟩ := List.map_eq_singleton_iff.mp shape
  obtain ⟨text, isMapping⟩ := Prod.mk.inj one
  obtain ⟨fields, isBody⟩ := Option.isSome_iff_exists.mp isMapping
  obtain ⟨entries, lists, tells⟩ := analyze_tellsWorkflow read accepted held
    (Node.wraps_mapping_iff.mpr own) (List.mem_singleton_self _) (Node.wraps_string_iff.mpr text)
    (Node.wraps_mapping_iff.mpr isBody) fun other known _ _ _ => List.mem_singleton.mp known
  exact ⟨config, fields, entries, accepted, workflows, lists, tells⟩

end PipelineAdvisor
