import Mathlib.Logic.Relation
import PipelineAdvisor.Proofs.Analysis.Independence
import PipelineAdvisor.Proofs.Analysis.Selection
import PipelineAdvisor.Proofs.Rules.Outline

/-!
Spellings that make no difference. A command, a cache key, an entry of a workflow and a requirement can
each be written in two ways; documents that differ in such spellings, anywhere, have the same result.
-/

namespace PipelineAdvisor

open Yaml (Node)
open Yaml.Node (DiffersAt Hop StepSpelling)

namespace Yaml.Node

inductive EntrySpelling : Node → Node → Prop
  | mk (name : String) :
      EntrySpelling (.string name) (.mapping [(.string name, .mapping [])])

inductive RequirementSpelling : Node → Node → Prop
  | mk (name : String) : RequirementSpelling (.string name) (.sequence [.string name])

/-- Steps that differ in the spelling of one step: of the step itself, or of a step inside it. In the
latter case the text of the step must be its image. -/
inductive StepRespelled : Node → Node → Prop
  | whole {node other : Node} : StepSpelling node other → StepRespelled node other
  | inside {path : List Hop} {node other : Node} :
      DiffersAt StepSpelling path node other → node.image?.isSome = true → StepRespelled node other

inductive Respelled : Node → Node → Prop
  | step {document other : Node} :
      DiffersAt StepRespelled [.named "jobs", .anyMember, .named "steps", .item] document other →
        Respelled document other
  | entry {document other : Node} :
      DiffersAt EntrySpelling [.named "workflows", .anyMember, .named "jobs", .item] document other →
        Respelled document other
  | requirement {document other : Node} :
      DiffersAt RequirementSpelling [.named "workflows", .anyMember, .named "jobs", .item, .anyMember,
        .named "requires"] document other → Respelled document other

theorem differsAt_of_respelled {node other : Node} (differs : DiffersAt StepRespelled [] node other) :
    ∃ path, DiffersAt StepSpelling path node other ∧ node.image?.isSome = true := by
  generalize isEmpty : ([] : List Hop) = path at differs
  induction differs with
  | here respelled =>
      cases respelled with
      | whole spelling => exact ⟨[], .here spelling, spelling.image?_isSome⟩
      | inside differs imaged => exact ⟨_, differs, imaged⟩
  | content _ ih =>
      obtain ⟨path, differs, imaged⟩ := ih isEmpty
      refine ⟨path, .content differs, ?_⟩
      rw [image?, Option.isSome_map, imaged]
  | member _ _ => cases isEmpty
  | item _ => cases isEmpty

end Yaml.Node

open Yaml.Node (StepRespelled EntrySpelling RequirementSpelling Respelled)

theorem Job.ofBody_alike {body other : Node}
    (differs : DiffersAt StepRespelled [.named "steps", .item] body other) (name : String) :
    (Job.ofBody name body).Alike (Job.ofBody name other) where
  name := rfl
  executor := by
    rw [Job.ofBody, Job.ofBody, Executor.ofBody, Executor.ofBody, differs.get?_eq (by decide),
      differs.get?_eq (by decide), differs.get?_eq (by decide)]
  resourceClass := by rw [Job.ofBody, Job.ofBody, differs.get?_eq (by decide)]
  parallelism := by
    simp only [Job.ofBody]
    rw [differs.get?_eq (by decide)]
  outlines := by
    rcases differs.get? "steps" with same | ⟨_, value, otherValue, inside, here, there⟩
    · rw [Job.ofBody, Job.ofBody, same]
    · obtain ⟨front, item, otherItem, back, respelled, items, otherItems⟩ := inside.asSequence?
      obtain ⟨path, spelled, imaged⟩ := Node.differsAt_of_respelled respelled
      have outline := Step.outline_of_differs spelled imaged
      simp [Job.ofBody, here, there, items, otherItems, outline]

theorem analyze_of_alike {job other : Job} (alike : job.Alike other) (before after : List Job)
    (workflows : List Workflow) (orbs : List String) :
    analyze ⟨before ++ job :: after, workflows, orbs⟩ =
      analyze ⟨before ++ other :: after, workflows, orbs⟩ := by
  apply analyze_of_emitted
  intro check
  have sameOrbs : check.ofJob ⟨before ++ job :: after, workflows, orbs⟩ =
      check.ofJob ⟨before ++ other :: after, workflows, orbs⟩ :=
    funext (check.ofJob_of_orbs rfl)
  rw [Check.emitted, Check.emitted, sameOrbs, List.flatMap_append, List.flatMap_append,
    List.flatMap_cons, List.flatMap_cons, check.ofJob_of_alike _ alike]

theorem analyze_jobsUnder {value other : Node}
    (differs : DiffersAt StepRespelled [.anyMember, .named "steps", .item] value other)
    (workflows : List Workflow) (orbs : List String) :
    ((Config.jobsUnder (some value)).map fun jobs => analyze ⟨jobs, workflows, orbs⟩) =
      (Config.jobsUnder (some other)).map fun jobs => analyze ⟨jobs, workflows, orbs⟩ := by
  rcases differs.member_cases with ⟨_, _, _, rfl, rfl⟩ |
    ⟨front, key, body, otherBody, back, _, inside, rfl, rfl⟩
  · rfl
  · rw [Config.jobsUnder, Config.jobsUnder]
    cases named : key.asString? with
    | none =>
        have unread : ∀ body, Job.ofMember? (key, body) = none := by
          intro body
          rw [Job.ofMember?, named]
          rfl
        rw [Config.jobsIn, Config.jobsIn, List.filterMap_append, List.filterMap_append,
          List.filterMap_cons_none (unread body), List.filterMap_cons_none (unread otherBody)]
    | some name =>
        rw [Config.jobsIn_around named, Config.jobsIn_around named]
        exact congrArg Except.ok (analyze_of_alike (Job.ofBody_alike inside name) _ _ _ _)

theorem analyze_of_respelled_step {document other : Node}
    (differs : DiffersAt StepRespelled [.named "jobs", .anyMember, .named "steps", .item] document
      other) : (Config.ofNode document).map analyze = (Config.ofNode other).map analyze := by
  obtain ⟨_, _, _, _, _, _, _, isRoot, otherRoot⟩ := differs.asMapping?
  rw [Config.ofNode_eq (Option.isSome_of_eq_some isRoot),
    Config.ofNode_eq (Option.isSome_of_eq_some otherRoot),
    differs.get?_eq (show "workflows" ≠ "jobs" by decide),
    differs.get?_eq (show "orbs" ≠ "jobs" by decide)]
  have analyzed : ∀ read workflows orbs,
      (Except.map (⟨·, workflows, orbs⟩) read : Except ShapeError Config).map analyze =
        read.map fun jobs => analyze ⟨jobs, workflows, orbs⟩ := by
    intro read workflows orbs
    cases read <;> rfl
  rw [analyzed, analyzed]
  rcases differs.get? "jobs" with same | ⟨_, value, otherValue, inside, here, there⟩
  · rw [same]
  · rw [here, there]
    exact analyze_jobsUnder inside _ _

section Entries

variable {change : Node → Node → Prop} {path : List Hop}

theorem Workflow.ofMember?_of_entries
    (kept : ∀ node other, DiffersAt change path node other →
      JobReference.ofNode? node = JobReference.ofNode? other) {body other : Node}
    (differs : DiffersAt change (.named "jobs" :: .item :: path) body other) (key : Node) :
    ofMember? (key, body) = ofMember? (key, other) := by
  obtain ⟨front, _, _, _, back, _, _, own, others⟩ := differs.asMapping?
  have jobs := differs.get? "jobs"
  rw [Node.get?, Node.get?, own, others, Option.bind_some, Option.bind_some] at jobs
  rw [ofMember?, ofMember?, own, others]
  cases key.asString? with
  | none => rfl
  | some name =>
      rcases jobs with same | ⟨_, value, otherValue, inside, here, there⟩
      · simp only [Option.bind_eq_bind, Option.bind_some, same]
      · obtain ⟨before, item, otherItem, after, inItem, items, otherItems⟩ := inside.asSequence?
        simp only [Option.bind_eq_bind, Option.bind_some, here, there, items, otherItems,
          Option.getD_some, List.filterMap_append, List.filterMap_cons, kept _ _ inItem]

theorem Config.ofNode_of_entries
    (kept : ∀ node other, DiffersAt change path node other →
      JobReference.ofNode? node = JobReference.ofNode? other) {document other : Node}
    (differs : DiffersAt change (.named "workflows" :: .anyMember :: .named "jobs" :: .item :: path)
      document other) : ofNode document = ofNode other := by
  obtain ⟨_, _, _, _, _, _, _, isRoot, otherRoot⟩ := differs.asMapping?
  rw [ofNode_eq (Option.isSome_of_eq_some isRoot), ofNode_eq (Option.isSome_of_eq_some otherRoot),
    differs.get?_eq (show "jobs" ≠ "workflows" by decide),
    differs.get?_eq (show "orbs" ≠ "workflows" by decide)]
  rcases differs.get? "workflows" with same | ⟨_, value, otherValue, inside, here, there⟩
  · rw [same]
  · obtain ⟨front, key, body, otherBody, back, _, inBody, entries, otherEntries⟩ :=
      inside.asMapping?
    have workflow := Workflow.ofMember?_of_entries kept inBody key
    have workflows : workflowsUnder (some value) = workflowsUnder (some otherValue) := by
      simp only [workflowsUnder, Option.bind_some, entries, otherEntries, Option.getD_some,
        List.filterMap_append, List.filterMap_cons, workflow]
    rw [here, there, workflows]

end Entries

theorem JobReference.ofNode?_of_entrySpelling {node other : Node}
    (differs : DiffersAt EntrySpelling [] node other) : ofNode? node = ofNode? other := by
  cases differs with
  | here spelling =>
      cases spelling
      rfl
  | content _ => rfl

theorem JobReference.ofNode?_of_requirementSpelling {node other : Node}
    (differs : DiffersAt RequirementSpelling [.anyMember, .named "requires"] node other) :
    ofNode? node = ofNode? other := by
  rcases differs.member_cases with ⟨_, _, _, rfl, rfl⟩ |
    ⟨front, key, options, otherOptions, back, _, inside, rfl, rfl⟩
  · rfl
  · cases front with
    | cons first rest => rfl
    | nil =>
        have requires : stringList (options.get? "requires") =
            stringList (otherOptions.get? "requires") := by
          rcases inside.get? "requires" with same | ⟨_, value, otherValue, inside, here, there⟩
          · rw [same]
          · rw [here, there]
            cases inside with
            | here spelling =>
                cases spelling
                rfl
            | content _ => rfl
        rw [List.nil_append, List.nil_append, ofNode?, ofNode?, requires,
          inside.get?_eq (show "type" ≠ "requires" by decide)]

/-- Documents with the same meaning up to spelling, in however many places, have the same result. -/
theorem analyze_of_respelled {document other : Node}
    (respelled : Relation.EqvGen Respelled document other) :
    (Config.ofNode document).map analyze = (Config.ofNode other).map analyze := by
  induction respelled with
  | rel document other respelled =>
      cases respelled with
      | step differs => exact analyze_of_respelled_step differs
      | entry differs =>
          rw [Config.ofNode_of_entries (fun _ _ => JobReference.ofNode?_of_entrySpelling) differs]
      | requirement differs =>
          rw [Config.ofNode_of_entries
            (fun _ _ => JobReference.ofNode?_of_requirementSpelling) differs]
  | refl document => rfl
  | symm document other _ ih => exact ih.symm
  | trans document between other _ _ first second => exact first.trans second

def spelledDocument (install restore entry requirement : Node) : Node :=
  .mapping [
    (.string "jobs", .mapping [(.string "build", .mapping [
      (.string "docker", .sequence [.mapping [(.string "image", .string "cimg/node:20.1")]]),
      (.string "steps", .sequence [install, restore])])]),
    (.string "workflows", .mapping [(.string "main", .mapping [
      (.string "jobs", .sequence [entry, .mapping [
        (.string "deploy", .mapping [(.string "requires", requirement)])]])])])]

theorem analyze_of_respelled_everywhere :
    let shortRun := Node.mapping [(.string "run", .string "npm ci")]
    let fullRun := Node.mapping [(.string "run", .mapping [(.string "command", .string "npm ci")])]
    let shortRestore :=
      Node.mapping [(.string "restore_cache", .mapping [(.string "key", .string "deps")])]
    let fullRestore := Node.mapping
      [(.string "restore_cache", .mapping [(.string "keys", .sequence [.string "deps"])])]
    let short := spelledDocument shortRun shortRestore (.string "build") (.string "build")
    let full := spelledDocument fullRun fullRestore (.mapping [(.string "build", .mapping [])])
      (.sequence [.string "build"])
    ((Config.ofNode short).map fun config =>
        (Check.all.flatMap fun check => check.emitted config).map (·.id)) =
        .ok ["cache-weak-key-build", "orbs-node-build", "resource-unspecified-build"] ∧
      (Config.ofNode short).map analyze = (Config.ofNode full).map analyze := by
  intro shortRun fullRun shortRestore fullRestore short full
  refine ⟨by decide +kernel, analyze_of_respelled ?_⟩
  have run : Respelled short (spelledDocument fullRun shortRestore (.string "build")
      (.string "build")) :=
    .step (@DiffersAt.member _ _ _ _ _ _ [] [_] rfl (@DiffersAt.member _ _ _ _ _ _ [] [] trivial
      (@DiffersAt.member _ _ _ _ _ _ [_] [] rfl
        (@DiffersAt.item _ _ _ _ [] [_] (.here (.whole (.run "npm ci")))))))
  have restore : Respelled (spelledDocument fullRun shortRestore (.string "build")
      (.string "build")) (spelledDocument fullRun fullRestore (.string "build")
      (.string "build")) :=
    .step (@DiffersAt.member _ _ _ _ _ _ [] [_] rfl (@DiffersAt.member _ _ _ _ _ _ [] [] trivial
      (@DiffersAt.member _ _ _ _ _ _ [_] [] rfl
        (@DiffersAt.item _ _ _ _ [_] [] (.here (.whole (.restoreCache "deps")))))))
  have entry : Respelled (spelledDocument fullRun fullRestore (.string "build")
      (.string "build")) (spelledDocument fullRun fullRestore
        (.mapping [(.string "build", .mapping [])]) (.string "build")) :=
    .entry (@DiffersAt.member _ _ _ _ _ _ [_] [] rfl (@DiffersAt.member _ _ _ _ _ _ [] [] trivial
      (@DiffersAt.member _ _ _ _ _ _ [] [] rfl
        (@DiffersAt.item _ _ _ _ [] [_] (.here (.mk "build"))))))
  have requirement : Respelled (spelledDocument fullRun fullRestore
      (.mapping [(.string "build", .mapping [])]) (.string "build")) full :=
    .requirement (@DiffersAt.member _ _ _ _ _ _ [_] [] rfl
      (@DiffersAt.member _ _ _ _ _ _ [] [] trivial (@DiffersAt.member _ _ _ _ _ _ [] [] rfl
        (@DiffersAt.item _ _ _ _ [_] [] (@DiffersAt.member _ _ _ _ _ _ [] [] trivial
          (@DiffersAt.member _ _ _ _ _ _ [] [] rfl (.here (.mk "build"))))))))
  exact (((Relation.EqvGen.rel _ _ run).trans _ _ _ (.rel _ _ restore)).trans _ _ _
    (.rel _ _ entry)).trans _ _ _ (.rel _ _ requirement)

end PipelineAdvisor
