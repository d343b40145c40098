import PipelineAdvisor.Proofs.Analysis.Identity
import PipelineAdvisor.Proofs.Pipeline.Replacement

/-!
Jobs are analyzed one by one. What a report says about other subjects than a job is what it says about
a configuration without this job, so it does not change when the job does.
-/

namespace PipelineAdvisor

open Yaml (Node)

namespace Check

def isOfJobs : Check → Bool
  | fanOut | missingApproval => false
  | _ => true

end Check

open Check

def Finding.isAboutJob (name : String) (finding : Finding) : Bool :=
  Check.all.any fun check => check.isOfJobs && check.names.any fun rule =>
    finding.id == Finding.idOf check.category rule name

def Config.withoutJob (config : Config) (name : String) : Config :=
  { config with jobs := config.jobs.filter fun job => job.name != name }

namespace Check

theorem Form.any_iff {check : Check} {subject name : String} {finding : Finding}
    (form : Form check subject finding) (family : Check → Bool) :
    (Check.all.any fun other => family other && other.names.any fun rule =>
      finding.id == Finding.idOf other.category rule name) = true ↔
      family check = true ∧ subject = name := by
  obtain ⟨rule, known, id⟩ := form.id
  simp only [List.any_eq_true, Bool.and_eq_true, beq_iff_eq]
  constructor
  · rintro ⟨other, _, inFamily, otherRule, otherKnown, same⟩
    obtain ⟨rfl, _, subjects⟩ := idOf_inj known otherKnown (id ▸ same)
    exact ⟨inFamily, subjects⟩
  · rintro ⟨inFamily, rfl⟩
    exact ⟨check, mem_all check, inFamily, rule, known, id⟩

theorem Form.isAboutJob_iff {check : Check} {subject name : String} {finding : Finding}
    (form : Form check subject finding) :
    finding.isAboutJob name = true ↔ check.isOfJobs = true ∧ subject = name :=
  form.any_iff isOfJobs

theorem ofJob_isOfJobs {check : Check} {config : Config} {job : Job} {finding : Finding}
    (found : finding ∈ check.ofJob config job) : check.isOfJobs = true := by
  cases check with
  | fanOut | missingApproval => simp [ofJob] at found
  | _ => rfl

theorem ofWorkflow_isOfJobs {check : Check} {workflow : Workflow} {finding : Finding}
    (found : finding ∈ check.ofWorkflow workflow) : check.isOfJobs = false := by
  cases check with
  | fanOut | missingApproval => rfl
  | _ => simp [ofWorkflow] at found

theorem ofJob_isAboutJob {check : Check} {config : Config} {job : Job} {finding : Finding}
    (found : finding ∈ check.ofJob config job) (name : String) :
    finding.isAboutJob name = (job.name == name) := by
  rw [Bool.eq_iff_iff, (ofJob_form found).isAboutJob_iff, beq_iff_eq]
  exact and_iff_right (ofJob_isOfJobs found)

theorem ofWorkflow_isAboutJob {check : Check} {workflow : Workflow} {finding : Finding}
    (found : finding ∈ check.ofWorkflow workflow) (name : String) :
    finding.isAboutJob name = false := by
  rw [Bool.eq_false_iff]
  intro about
  rw [(ofWorkflow_form found).isAboutJob_iff, ofWorkflow_isOfJobs found] at about
  exact Bool.false_ne_true about.1

theorem ofJob_of_orbs (check : Check) {config other : Config} (same : config.orbs = other.orbs)
    (job : Job) : check.ofJob config job = check.ofJob other job := by
  apply check.ofJob_of_declares
  intro space
  rw [Config.declaresOrb, Config.declaresOrb, same]

theorem emitted_withoutJob (check : Check) (config : Config) (name : String) :
    check.emitted (config.withoutJob name) =
      (check.emitted config).filter fun finding => !finding.isAboutJob name := by
  have ofJobs : (config.withoutJob name).jobs.flatMap (check.ofJob (config.withoutJob name)) =
      (config.jobs.flatMap (check.ofJob config)).filter fun finding =>
        !finding.isAboutJob name := by
    have sameOrbs : (config.withoutJob name).orbs = config.orbs := rfl
    rw [funext (ofJob_of_orbs check sameOrbs)]
    apply flatMap_filter
    intro job _ finding found
    rw [ofJob_isAboutJob found, bne]
  have ofWorkflows : (config.workflows.flatMap check.ofWorkflow).filter
      (fun finding => !finding.isAboutJob name) = config.workflows.flatMap check.ofWorkflow := by
    rw [List.filter_eq_self]
    intro finding found
    obtain ⟨workflow, _, found⟩ := List.mem_flatMap.mp found
    rw [ofWorkflow_isAboutJob found]
    rfl
  rw [emitted, emitted, List.filter_append, ofWorkflows, ofJobs]
  rfl

end Check

theorem analyze_withoutJob (config : Config) (name : String) :
    (analyze (config.withoutJob name)).findings =
      (analyze config).findings.filter fun finding => !finding.isAboutJob name := by
  rw [analyze_findings_eq_ranked, analyze_findings_eq_ranked, ← Finding.ranked_filter,
    List.filter_flatMap]
  simp only [emitted_withoutJob]

namespace Config

theorem withoutJob_around {name : String} {job : Job} (called : job.name = name)
    (before after : List Job) (workflows : List Workflow) (orbs : List String) :
    withoutJob ⟨before ++ job :: after, workflows, orbs⟩ name =
      withoutJob ⟨before ++ after, workflows, orbs⟩ name := by
  have dropped : (job.name != name) = false := by simp [called]
  simp [withoutJob, List.filter_append, dropped]

theorem withoutJob_of_absent {config : Config} {name : String}
    (absent : ∀ job ∈ config.jobs, job.name ≠ name) : config.withoutJob name = config := by
  rw [withoutJob, List.filter_eq_self.mpr fun job known => bne_iff_ne.mpr (absent job known)]

end Config

/-- If merged documents differ in the body of one job only, all findings that are not about this job
are the same, in the same order; and if the job is dropped, just the findings about it go. -/
theorem analyze_isolates_job {document key body : Node} {front back : List (Node × Node)}
    {name : String} {config : Config} (named : key.asString? = some name)
    (accepted : Config.ofNode document = .ok config)
    (distinct : (config.jobs.map (·.name)).Nodup) :
    (∀ other otherBody, Node.SameBesideJobs document other (front ++ (key, body) :: back)
        (front ++ (key, otherBody) :: back) →
      ∃ otherConfig, Config.ofNode other = .ok otherConfig ∧
        ((analyze otherConfig).findings.filter fun finding => !finding.isAboutJob name) =
          (analyze config).findings.filter fun finding => !finding.isAboutJob name) ∧
    ∀ rest, Node.SameBesideJobs document rest (front ++ (key, body) :: back) (front ++ back) →
      (∃ job ∈ config.jobs, job.name ≠ name) →
      ∃ restConfig, Config.ofNode rest = .ok restConfig ∧
        (analyze restConfig).findings =
          (analyze config).findings.filter fun finding => !finding.isAboutJob name := by
  constructor
  · intro other otherBody same
    obtain ⟨own, otherConfig, here, there, before, job, otherJob, after, workflows, orbs,
      ⟨made, otherMade⟩, rfl, rfl⟩ := Config.ofNode_of_body named same
    rw [accepted] at here
    obtain rfl := Except.ok.inj here
    refine ⟨_, there, ?_⟩
    have called : job.name = name := by rw [made]; rfl
    have otherCalled : otherJob.name = name := by rw [otherMade]; rfl
    rw [← analyze_withoutJob, ← analyze_withoutJob, Config.withoutJob_around called,
      Config.withoutJob_around otherCalled]
  · intro rest same remaining
    obtain ⟨before, after, jobs, there⟩ := Config.ofNode_of_dropped named same accepted remaining
    refine ⟨_, there, ?_⟩
    have absent : ∀ job ∈ before ++ after, job.name ≠ name := by
      rw [jobs, List.map_append, List.map_cons, List.nodup_middle, List.nodup_cons,
        ← List.map_append] at distinct
      intro job known called
      have member : job.name ∈ (before ++ after).map (·.name) := List.mem_map_of_mem known
      rw [called] at member
      exact distinct.1 member
    have whole : config.withoutJob name =
        Config.withoutJob { config with jobs := before ++ after } name := by
      have called : (Job.ofBody name body).name = name := rfl
      have around := Config.withoutJob_around called before after config.workflows config.orbs
      rw [← jobs] at around
      exact around
    rw [← analyze_withoutJob, whole, Config.withoutJob_of_absent absent]

def orbDocument (jobs : List (Node × Node)) : Node :=
  .mapping [(.string "orbs", .mapping [(.string "node", .string "circleci/node@5")]),
    (.string "jobs", .mapping jobs)]

def containerJob (command : String) : Node :=
  .mapping [(.string "docker", .sequence [.mapping [(.string "image", .string "cimg/base")]]),
    (.string "steps", .sequence [.mapping [(.string "run", .string command)]])]

theorem orbDocument_sameBesideJobs (jobs otherJobs : List (Node × Node)) :
    Node.SameBesideJobs (orbDocument jobs) (orbDocument otherJobs) jobs otherJobs where
  here := rfl
  there := rfl
  beside := by
    intro name other
    have differ : (Node.string "jobs").isString name = false := by
      rw [Bool.eq_false_iff, Ne, Node.isString_iff]
      rintro ⟨⟩
      exact other rfl
    simp [orbDocument, Node.get?, Node.asMapping?, Node.bare, Node.lookup?, List.find?_cons, differ]

theorem analyze_isolates_build :
    let installing := (Node.string "build", containerJob "pip install -r requirements.txt")
    let making := (Node.string "build", containerJob "make")
    let testing := (Node.string "test", containerJob "npm ci && jest")
    let findingsBeside (config : Config) :=
      (analyze config).findings.filter fun finding => !finding.isAboutJob "build"
    ∃ config madeConfig restConfig,
      Config.ofNode (orbDocument [installing, testing]) = .ok config ∧
      Config.ofNode (orbDocument [making, testing]) = .ok madeConfig ∧
      Config.ofNode (orbDocument [testing]) = .ok restConfig ∧
      findingsBeside madeConfig = findingsBeside config ∧
      (analyze restConfig).findings = findingsBeside config := by
  intro installing making testing findingsBeside
  let build := Job.ofBody "build" installing.2
  let test := Job.ofBody "test" testing.2
  have accepted : Config.ofNode (orbDocument ([] ++ installing :: [testing])) =
      .ok ⟨[build, test], [], ["circleci/node@5"]⟩ := rfl
  have named : installing.1.asString? = some "build" := rfl
  obtain ⟨replaced, dropped⟩ :=
    @analyze_isolates_job _ _ installing.2 [] [testing] _ _ named accepted (by decide)
  obtain ⟨madeConfig, made, beside⟩ := replaced _ making.2 (orbDocument_sameBesideJobs _ _)
  obtain ⟨restConfig, rest, left⟩ := dropped _ (orbDocument_sameBesideJobs _ _)
    ⟨test, List.mem_cons_of_mem _ List.mem_cons_self, by decide⟩
  exact ⟨_, madeConfig, restConfig, accepted, made, rest, beside, left⟩

end PipelineAdvisor
