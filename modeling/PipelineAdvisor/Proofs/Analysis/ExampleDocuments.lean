import PipelineAdvisor.Pipeline.Load
import PipelineAdvisor.Proofs.Analysis.Remedies
import PipelineAdvisor.Proofs.Analysis.Savings
import PipelineAdvisor.Proofs.Rules.SnippetLayouts

/-!
The examples of a report as documents. Names of jobs and workflows are put in without quotes, so an
example is a document if all names in it can stand plain, and it names its subject as a string if the
name is not read as something else.
-/

namespace PipelineAdvisor

open Yaml

/-- What an example takes from its subject: the names that become keys and those that become items,
and the section in which it shows the subject, if it does, with the name of the subject. -/
structure Exhibit where
  keys : List String := []
  items : List String := []
  subject? : Option (String × String) := none

def Exhibit.standsPlain (exhibit : Exhibit) : Bool :=
  exhibit.keys.all standsAsKey && exhibit.items.all standsAsValue

/-- Whether a document is a mapping with a mapping under a header, which has a name as a string among
its keys. -/
def Yaml.Node.ShowsName (document : Node) (header name : String) : Prop :=
  ∃ entries inner value, document = .mapping entries ∧ (.string header, .mapping inner) ∈ entries ∧
    (.string name, value) ∈ inner

/-- An example is read, and shows its subject by name just if the name is read as a string. -/
def Exhibit.IsShown (exhibit : Exhibit) (text : String) : Prop :=
  ∃ document, readNode text = .ok document ∧
    ∀ subject ∈ exhibit.subject?, document.ShowsName subject.1 subject.2 ↔ isWord subject.2 = true

namespace Check

def exhibitOfJob (check : Check) (job : Job) : Exhibit :=
  match check with
  | .oversizedTier | .unspecifiedTier | .testSplitting =>
    { keys := [job.name], subject? := some ("jobs", job.name) }
  | .hardcodedSecret => { keys := [job.name] }
  | _ => {}

def exhibitOfWorkflow (check : Check) (workflow : Workflow) : Exhibit :=
  match check with
  | .fanOut =>
    { keys := [workflow.name]
      items := workflow.independentJobs.map (·.name)
      subject? := some ("workflows", workflow.name) }
  | .missingApproval =>
    { keys := [workflow.name, (workflow.jobs.getLast?.map (·.name)).getD "deploy"]
      subject? := some ("workflows", workflow.name) }
  | _ => {}

end Check

namespace Snippet

theorem LaidOut.isShown {text : String} {layout : Layout} (laid : LaidOut text layout)
    {exhibit : Exhibit} (none : exhibit.subject? = none) : exhibit.IsShown text :=
  ⟨layout.node, laid.readNode, by simp [none]⟩

theorem sectionLayout_showsName {header name : String} {content : Layout}
    (word : isWord header = true) :
    (sectionLayout header name content).node.ShowsName header name ↔ isWord name = true := by
  rw [← scalarNode_eq_string_iff] at word ⊢
  constructor
  · rintro ⟨entries, inner, value, document_eq, outer, known⟩
    obtain rfl := Node.mapping.inj document_eq
    obtain rfl := Node.mapping.inj (Prod.mk.inj (List.mem_singleton.mp outer)).2
    exact (Prod.mk.inj (List.mem_singleton.mp known)).1.symm
  · intro same
    refine ⟨_, [(Layout.scalarNode name, content.node)], content.node, rfl, ?_, ?_⟩
    · rw [← word]
      exact List.mem_singleton.mpr rfl
    · rw [← same]
      exact List.mem_singleton.mpr rfl

theorem LaidOut.isShown_section {text header name : String} {content : Layout}
    (laid : LaidOut text (sectionLayout header name content)) (known : header ∈ ["jobs", "workflows"])
    {exhibit : Exhibit} (subject : exhibit.subject? = some (header, name)) : exhibit.IsShown text := by
  have words : ∀ header ∈ ["jobs", "workflows"], isWord header = true := by decide
  refine ⟨_, laid.readNode, fun shown here => ?_⟩
  obtain rfl := Option.some.inj (subject.symm.trans here)
  exact sectionLayout_showsName (words header known)

end Snippet

namespace Check

theorem isShown_ofJob {check : Check} {job : Job} {finding : Finding} {text : String}
    (found : FoundInJob job check finding) (example_eq : finding.example? = some text)
    (plain : (check.exhibitOfJob job).standsPlain = true) :
    (check.exhibitOfJob job).IsShown text := by
  simp only [Exhibit.standsPlain, Bool.and_eq_true] at plain
  have keys := List.all_eq_true.mp plain.1
  cases found with
  | oversizedTier found =>
      obtain ⟨tier, known, shown⟩ := ResourceClass.oversized?_example found
      obtain rfl := Option.some.inj (shown.symm.trans example_eq)
      exact (Snippet.laidOut_resourceClass (keys _ List.mem_cons_self) known).isShown_section
        (by simp) rfl
  | unspecifiedTier =>
      obtain rfl := Option.some.inj example_eq
      exact (Snippet.laidOut_resourceClass (keys _ List.mem_cons_self) (by decide)).isShown_section
        (by simp) rfl
  | testSplitting =>
      obtain rfl := Option.some.inj example_eq
      exact (Snippet.laidOut_testSplitting (keys _ List.mem_cons_self)).isShown_section (by simp) rfl
  | hardcodedSecret step literal =>
      obtain rfl := Option.some.inj example_eq
      exact (Snippet.laidOut_secretFromContext (keys _ List.mem_cons_self)).isShown rfl
  | missingCache command =>
      obtain rfl := Option.some.inj example_eq
      exact (Snippet.laidOut_dependencyCache _).isShown rfl
  | weakCacheKey =>
      obtain rfl := Option.some.inj example_eq
      exact (Snippet.laidOut_checksumCacheKeys _).isShown rfl
  | layerCaching =>
      obtain rfl := Option.some.inj example_eq
      exact Snippet.laidOut_layerCaching.isShown rfl
  | orbReuse known =>
      obtain rfl := Option.some.inj example_eq
      exact (Snippet.laidOut_orbUsage known).isShown rfl

theorem isShown_ofWorkflow {check : Check} {workflow : Workflow} {finding : Finding} {text : String}
    (found : FoundInWorkflow workflow check finding) (example_eq : finding.example? = some text)
    (plain : (check.exhibitOfWorkflow workflow).standsPlain = true) :
    (check.exhibitOfWorkflow workflow).IsShown text := by
  simp only [Exhibit.standsPlain, Bool.and_eq_true] at plain
  have keys := List.all_eq_true.mp plain.1
  have items := List.all_eq_true.mp plain.2
  cases found with
  | fanOut several =>
      obtain rfl := Option.some.inj example_eq
      obtain ⟨first, rest, jobs_eq⟩ := List.exists_cons_of_ne_nil
        (List.ne_nil_of_length_pos (Nat.lt_of_lt_of_le Nat.zero_lt_two several))
      simp only [exhibitOfWorkflow, jobs_eq] at items ⊢
      exact (Snippet.laidOut_fanOut (keys _ List.mem_cons_self) items).isShown_section (by simp) rfl
  | missingApproval =>
      obtain rfl := Option.some.inj example_eq
      exact (Snippet.laidOut_approvalGate (keys _ List.mem_cons_self)
        (keys _ (List.mem_cons_of_mem _ List.mem_cons_self))).isShown_section (by simp) rfl

end Check

/-- Every example of a report is a document that names its subject, if the names in it can stand
plain. -/
theorem analyze_example_isShown {config : Config} {finding : Finding} {text : String}
    (found : finding ∈ (analyze config).findings) (example_eq : finding.example? = some text) :
    ∃ check exhibit, ((∃ job ∈ config.jobs, finding ∈ Check.ofJob check config job ∧
          exhibit = check.exhibitOfJob job) ∨
        ∃ workflow ∈ config.workflows, finding ∈ check.ofWorkflow workflow ∧
          exhibit = check.exhibitOfWorkflow workflow) ∧
      (exhibit.standsPlain = true → exhibit.IsShown text) := by
  obtain ⟨check, emitted⟩ := mem_analyze_findings.mp found
  rcases List.mem_append.mp emitted with ofJobs | ofWorkflows
  · obtain ⟨job, known, emits⟩ := List.mem_flatMap.mp ofJobs
    exact ⟨check, _, .inl ⟨job, known, emits, rfl⟩,
      Check.isShown_ofJob (Check.foundInJob_of_mem emits) example_eq⟩
  · obtain ⟨workflow, known, emits⟩ := List.mem_flatMap.mp ofWorkflows
    exact ⟨check, _, .inr ⟨workflow, known, emits, rfl⟩,
      Check.isShown_ofWorkflow (Check.foundInWorkflow_of_mem emits) example_eq⟩

def plainJob : Job where
  name := "build"
  executor := .docker none

theorem analyze_example_isShown_plainJob :
    let exhibit := Check.unspecifiedTier.exhibitOfJob plainJob
    ResourceClass.unspecified plainJob ∈ (analyze { jobs := [plainJob] }).findings ∧
      (ResourceClass.unspecified plainJob).example? = some (Snippet.resourceClass "build" "medium") ∧
      exhibit.standsPlain = true ∧ exhibit.IsShown (Snippet.resourceClass "build" "medium") := by
  have emits : ResourceClass.unspecified plainJob ∈
      Check.unspecifiedTier.ofJob { jobs := [plainJob] } plainJob := List.mem_cons_self
  have found : ResourceClass.unspecified plainJob ∈ (analyze { jobs := [plainJob] }).findings :=
    mem_analyze_findings.mpr ⟨.unspecifiedTier, List.mem_append_left _ List.mem_cons_self⟩
  have plain : (Check.unspecifiedTier.exhibitOfJob plainJob).standsPlain = true := by
    decide
  obtain ⟨check, exhibit, subject, shows⟩ := analyze_example_isShown found rfl
  rcases subject with ⟨job, known, alsoEmits, rfl⟩ | ⟨workflow, known, _⟩
  · obtain rfl := List.mem_singleton.mp known
    -- The id of the finding tells that no other check emits it.
    obtain ⟨rfl, _⟩ := (Check.ofJob_form alsoEmits).eq_of_id (Check.ofJob_form emits) rfl
    exact ⟨found, rfl, plain, shows plain⟩
  · cases known

def colonName : String :=
  "jobs:\n  'build: linux':\n    docker:\n      - image: ruby\n"

/-- A name with a colon in it does not stand plain. -/
theorem analyze_example_unreadable :
    ∃ config finding text, Config.parse colonName = .ok config ∧
      finding ∈ (analyze config).findings ∧ finding.example? = some text ∧
      ∀ document, readNode text ≠ .ok document := by
  have parsed : (Config.parse colonName).toOption.map (fun config => config.jobs.any fun job =>
      (Check.unspecifiedTier.ofJob config job).any fun finding =>
        finding.example?.any fun text => (readNode text).toOption.isNone) = some true := by
    decide +kernel
  obtain ⟨config, accepted, jobs⟩ := Option.map_eq_some_iff.mp parsed
  obtain ⟨job, known, findings⟩ := List.any_eq_true.mp jobs
  obtain ⟨finding, emits, example_eq⟩ := List.any_eq_true.mp findings
  obtain ⟨text, shown, unread⟩ := (Option.any_eq_true _ _).mp example_eq
  refine ⟨config, finding, text, toOption_eq_some_iff.mp accepted, ?_, shown, fun document read => ?_⟩
  · exact mem_analyze_findings.mpr ⟨.unspecifiedTier,
      List.mem_append_left _ (List.mem_flatMap.mpr ⟨job, known, emits⟩)⟩
  · rw [read] at unread
    cases unread

end PipelineAdvisor
