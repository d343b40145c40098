import PipelineAdvisor.Proofs.Pipeline.Sections
import PipelineAdvisor.Proofs.Yaml.Places

/-!
Configurations of documents that differ in one section. A section is read on its own, and in it every
entry is read on its own, so all other parts of the configuration stay what they are.
-/

namespace PipelineAdvisor

open Yaml (Node)
open Yaml.Node (DiffersAt Hop)

namespace Yaml.Node

/-- Merged documents with the same sections but for the entries of their jobs. -/
structure SameBesideJobs (document other : Node) (jobs otherJobs : List (Node × Node)) : Prop where
  here : document.get? "jobs" = some (.mapping jobs)
  there : other.get? "jobs" = some (.mapping otherJobs)
  beside : ∀ name, name ≠ "jobs" → document.get? name = other.get? name

theorem isSome_asMapping?_of_get? {node value : Node} {key : String}
    (found : node.get? key = some value) : node.asMapping?.isSome = true := by
  obtain ⟨entries, own, _⟩ := Option.bind_eq_some_iff.mp found
  rw [own]
  rfl

end Yaml.Node

namespace Config

def jobsIn (entries : List (Node × Node)) : Except ShapeError (List Job) :=
  let jobs := entries.filterMap Job.ofMember?
  if jobs.isEmpty then .error .noJobs else .ok jobs

def jobsUnder : Option Node → Except ShapeError (List Job)
  | some (.mapping entries) => jobsIn entries
  | some _ => .error .jobsNotMapping
  | none => .error .noJobs

def workflowsUnder (value : Option Node) : List Workflow :=
  ((value.bind Node.asMapping?).getD []).filterMap Workflow.ofMember?

def orbsUnder (value : Option Node) : List String :=
  ((value.bind Node.asMapping?).getD []).filterMap fun entry => entry.2.asString?

theorem ofNode_eq {document : Node} (isRoot : document.asMapping?.isSome = true) :
    ofNode document = (jobsUnder (document.get? "jobs")).map fun jobs =>
      ⟨jobs, workflowsUnder (document.get? "workflows"), orbsUnder (document.get? "orbs")⟩ := by
  obtain ⟨root, isRoot⟩ := Option.isSome_iff_exists.mp isRoot
  have found : ∀ name, document.get? name = Node.lookup? name root := by
    intro name
    rw [Node.get?, isRoot, Option.bind_some]
  have jobs : jobsOf root = jobsUnder (Node.lookup? "jobs" root) := by
    rw [jobsOf]
    split
    next inSection => rw [inSection]; rfl
    next value shape inSection =>
      rw [inSection]
      cases value with
      | mapping entries => exact absurd rfl (shape entries)
      | _ => rfl
    next inSection => rw [inSection]; rfl
  rw [ofNode, isRoot, found, found, found]
  dsimp only
  rw [jobs]
  cases jobsUnder (Node.lookup? "jobs" root) <;> rfl

theorem ofNode_of_sameBesideJobs {document other : Node} {jobs otherJobs : List (Node × Node)}
    (same : Node.SameBesideJobs document other jobs otherJobs) :
    ∃ workflows orbs, ofNode document = (jobsIn jobs).map (⟨·, workflows, orbs⟩) ∧
      ofNode other = (jobsIn otherJobs).map (⟨·, workflows, orbs⟩) := by
  refine ⟨workflowsUnder (document.get? "workflows"), orbsUnder (document.get? "orbs"), ?_, ?_⟩
  · rw [ofNode_eq (Node.isSome_asMapping?_of_get? same.here), same.here]
    rfl
  · rw [ofNode_eq (Node.isSome_asMapping?_of_get? same.there), same.there,
      same.beside "workflows" (by decide), same.beside "orbs" (by decide)]
    rfl

theorem jobsIn_of_ne_nil {entries : List (Node × Node)}
    (filled : entries.filterMap Job.ofMember? ≠ []) :
    jobsIn entries = .ok (entries.filterMap Job.ofMember?) :=
  if_neg fun empty => filled (List.isEmpty_iff.mp empty)

theorem filterMap_around {key : Node} {name : String} (named : key.asString? = some name)
    (front back : List (Node × Node)) (body : Node) :
    (front ++ (key, body) :: back).filterMap Job.ofMember? =
      front.filterMap Job.ofMember? ++ Job.ofBody name body :: back.filterMap Job.ofMember? := by
  have made : Job.ofMember? (key, body) = some (Job.ofBody name body) := by
    rw [Job.ofMember?, named]
    rfl
  rw [List.filterMap_append, List.filterMap_cons_some made]

theorem jobsIn_around {key : Node} {name : String} (named : key.asString? = some name)
    (front back : List (Node × Node)) (body : Node) :
    jobsIn (front ++ (key, body) :: back) =
      .ok (front.filterMap Job.ofMember? ++ Job.ofBody name body ::
        back.filterMap Job.ofMember?) := by
  rw [← filterMap_around named]
  apply jobsIn_of_ne_nil
  rw [filterMap_around named]
  simp

def DifferInJob (related : Job → Job → Prop) (config other : Config) : Prop :=
  ∃ before job otherJob after workflows orbs, related job otherJob ∧
    config = ⟨before ++ job :: after, workflows, orbs⟩ ∧
    other = ⟨before ++ otherJob :: after, workflows, orbs⟩

theorem ofNode_of_body {document other key body otherBody : Node} {front back : List (Node × Node)}
    {name : String} (named : key.asString? = some name)
    (same : Node.SameBesideJobs document other (front ++ (key, body) :: back)
      (front ++ (key, otherBody) :: back)) :
    ∃ config otherConfig, ofNode document = .ok config ∧ ofNode other = .ok otherConfig ∧
      DifferInJob (fun job otherJob => job = Job.ofBody name body ∧
        otherJob = Job.ofBody name otherBody) config otherConfig := by
  obtain ⟨workflows, orbs, here, there⟩ := ofNode_of_sameBesideJobs same
  rw [jobsIn_around named] at here there
  exact ⟨_, _, here, there, _, _, _, _, _, _, ⟨rfl, rfl⟩, rfl, rfl⟩

theorem ofNode_of_dropped {document rest key body : Node} {front back : List (Node × Node)}
    {name : String} (named : key.asString? = some name)
    (same : Node.SameBesideJobs document rest (front ++ (key, body) :: back) (front ++ back))
    {config : Config} (accepted : ofNode document = .ok config)
    (remaining : ∃ job ∈ config.jobs, job.name ≠ name) :
    ∃ before after, config.jobs = before ++ Job.ofBody name body :: after ∧
      ofNode rest = .ok { config with jobs := before ++ after } := by
  obtain ⟨workflows, orbs, here, there⟩ := ofNode_of_sameBesideJobs same
  rw [accepted, jobsIn_of_ne_nil (by rw [filterMap_around named]; simp)] at here
  obtain rfl := Except.ok.inj here
  have jobs := filterMap_around named front back body
  refine ⟨_, _, jobs, ?_⟩
  rw [there, jobsIn_of_ne_nil, List.filterMap_append]
  · rfl
  · intro empty
    rw [List.filterMap_append] at empty
    obtain ⟨job, known, other⟩ := remaining
    rw [jobs] at known
    obtain ⟨noneBefore, noneAfter⟩ := List.append_eq_nil_iff.mp empty
    rw [noneBefore, noneAfter] at known
    rw [List.mem_singleton.mp known] at other
    exact other rfl

end Config

end PipelineAdvisor
