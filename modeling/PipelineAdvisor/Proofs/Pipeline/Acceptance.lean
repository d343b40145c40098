import PipelineAdvisor.Proofs.Pipeline.Replacement

/-!
Which documents are accepted. A merged document needs a mapping under the plain key `jobs` of its root
and a text among the keys there. Nothing else in it matters for success, whatever its shape, and the
names of the jobs are the texts among these keys.
-/

namespace PipelineAdvisor

open Yaml (Node)

namespace Yaml.Node

/-- A node that is this content inside any number of tags. -/
inductive Wraps : Node → Node → Prop where
  | plain (content : Node) : Wraps content content
  | tagged (tag : String) {node content : Node} (inside : Wraps node content) :
      Wraps (.tagged tag node) content

theorem wraps_bare : ∀ node : Node, node.Wraps node.bare
  | .tagged tag content => .tagged tag (wraps_bare content)
  | .null => .plain _
  | .bool _ => .plain _
  | .number _ => .plain _
  | .string _ => .plain _
  | .sequence _ => .plain _
  | .mapping _ => .plain _

theorem wraps_iff {node content : Node} (untagged : content.bare = content) :
    node.Wraps content ↔ node.bare = content := by
  constructor
  · intro wraps
    induction wraps with
    | plain => exact untagged
    | tagged _ _ ih => exact ih untagged
  · rintro rfl
    exact wraps_bare node

theorem wraps_mapping_iff {node : Node} {entries : List (Node × Node)} :
    node.Wraps (.mapping entries) ↔ node.asMapping? = some entries := by
  rw [wraps_iff rfl, asMapping?]
  cases node.bare <;> simp

theorem wraps_string_iff {node : Node} {text : String} :
    node.Wraps (.string text) ↔ node.asString? = some text := by
  rw [wraps_iff rfl, asString?]
  cases node.bare <;> simp

/-- A document that is a mapping, inside any tags, with a plain mapping of these members under the
plain key `jobs`. -/
def HoldsJobs (document : Node) (members : List (Node × Node)) : Prop :=
  ∃ root, document.Wraps (.mapping root) ∧ (.string "jobs", .mapping members) ∈ root

/-- The least shape of a configuration: some key in the section of jobs is a text, inside any tags. -/
def NamesJob (document : Node) : Prop :=
  ∃ members, document.HoldsJobs members ∧
    ∃ entry ∈ members, ∃ name, entry.1.Wraps (.string name)

def RootDistinct (document : Node) : Prop :=
  ∀ root, document.asMapping? = some root → (namedKeys root).Nodup

theorem KeysDistinct.root {document : Node} (distinct : document.KeysDistinct) :
    document.RootDistinct :=
  fun _ isRoot => (distinct.entries_of_asMapping? isRoot).names

/-- A mapping, inside any tags, with this value under the plain key. -/
def Holds (node : Node) (key : String) (value : Node) : Prop :=
  ∃ entries, node.Wraps (.mapping entries) ∧ (.string key, value) ∈ entries

theorem holds_iff {node : Node} (distinct : node.RootDistinct) {key : String} {value : Node} :
    node.Holds key value ↔ node.get? key = some value := by
  rw [Holds, get?, Option.bind_eq_some_iff]
  constructor
  · rintro ⟨root, isRoot, known⟩
    rw [wraps_mapping_iff] at isRoot
    exact ⟨root, isRoot, (lookup?_eq_some_iff (distinct root isRoot)).mpr known⟩
  · rintro ⟨root, isRoot, found⟩
    exact ⟨root, wraps_mapping_iff.mpr isRoot, (lookup?_eq_some_iff (distinct root isRoot)).mp found⟩

theorem holdsJobs_iff {document : Node} (distinct : document.RootDistinct)
    {members : List (Node × Node)} :
    document.HoldsJobs members ↔ document.get? "jobs" = some (.mapping members) :=
  holds_iff distinct

end Yaml.Node

namespace Config

section Shape

variable {document : Node}

theorem ofNode_of_holdsJobs (distinct : document.RootDistinct) {members : List (Node × Node)}
    (holds : document.HoldsJobs members) :
    ofNode document = (jobsIn members).map fun jobs =>
      ⟨jobs, workflowsUnder (document.get? "workflows"), orbsUnder (document.get? "orbs")⟩ := by
  have found := (Node.holdsJobs_iff distinct).mp holds
  rw [ofNode_eq (Node.isSome_asMapping?_of_get? found), found]
  rfl

theorem ofNode_of_none (distinct : document.RootDistinct)
    (none : ∀ members, ¬document.HoldsJobs members) : ∃ reason, ofNode document = .error reason := by
  cases isRoot : document.asMapping? with
  | none =>
      refine ⟨.rootNotMapping, ?_⟩
      rw [ofNode, isRoot]
      rfl
  | some root =>
      rw [ofNode_eq (by rw [isRoot]; rfl)]
      cases found : document.get? "jobs" with
      | none => exact ⟨.noJobs, rfl⟩
      | some value =>
          cases value with
          | mapping members => exact absurd ((Node.holdsJobs_iff distinct).mpr found) (none members)
          | _ => exact ⟨.jobsNotMapping, rfl⟩

end Shape

theorem forall₂_ofMember? (members : List (Node × Node)) :
    List.Forall₂ (fun entry job => Job.ofMember? entry = some job)
      (members.filter fun entry => entry.1.isNamed) (members.filterMap Job.ofMember?) := by
  have named : ∀ entry out : Node × Node, entry = out →
      entry.1.isNamed = (Job.ofMember? out).isSome := by
    rintro entry _ rfl
    rw [Job.ofMember?, Option.isSome_map]
    rfl
  refine (forall₂_filterMap named (List.forall₂_refl members)).imp ?_
  rintro entry job ⟨_, rfl, made⟩
  exact made

theorem names_ofMember? (members : List (Node × Node)) :
    (members.filterMap Job.ofMember?).map (·.name) =
      (members.map (·.1)).filterMap Node.asString? := by
  rw [List.map_filterMap, List.filterMap_map]
  congr 1
  funext entry
  simp only [Job.ofMember?, Option.map_map]
  exact Option.map_id'

theorem jobsIn_cases (members : List (Node × Node)) :
    ((∃ entry ∈ members, ∃ name, entry.1.Wraps (.string name)) ∧
        jobsIn members = .ok (members.filterMap Job.ofMember?)) ∨
      ((¬∃ entry ∈ members, ∃ name, entry.1.Wraps (.string name)) ∧
        jobsIn members = .error .noJobs) := by
  by_cases empty : members.filterMap Job.ofMember? = []
  · right
    refine ⟨?_, by rw [jobsIn, empty]; rfl⟩
    rintro ⟨entry, known, name, named⟩
    have unmade := List.filterMap_eq_nil_iff.mp empty entry known
    rw [Job.ofMember?, Node.wraps_string_iff.mp named] at unmade
    cases unmade
  · left
    refine ⟨?_, jobsIn_of_ne_nil empty⟩
    obtain ⟨job, inJobs⟩ := List.exists_mem_of_ne_nil _ empty
    obtain ⟨entry, known, made⟩ := List.mem_filterMap.mp inJobs
    exact ⟨entry, known, job.name, Node.wraps_string_iff.mpr (Job.name_of_member made)⟩

theorem parse_of_read {text : String} {node document : Node} (read : Yaml.readNode text = .ok node)
    (merged : node.merge = .ok document) : parse text = (ofNode document).mapError .unusable := by
  have whole : Yaml.readMerged text = .ok document := by
    rw [Yaml.readMerged, read]
    simp only [bind, Except.bind, merged]
    rfl
  rw [parse, whole]

theorem parse_cases {text : String} {node document : Node} (read : Yaml.readNode text = .ok node)
    (merged : node.merge = .ok document) :
    (document.NamesJob ∧ ∃ members config, document.HoldsJobs members ∧
        (∀ other, document.HoldsJobs other → other = members) ∧
        parse text = .ok config ∧ config.jobs = members.filterMap Job.ofMember?) ∨
      (¬document.NamesJob ∧ ∃ reason, parse text = .error (.unusable reason)) := by
  have distinct := ((Yaml.readNode_keysDistinct read).merge merged).root
  rw [parse_of_read read merged]
  by_cases holding : ∃ members, document.HoldsJobs members
  · obtain ⟨members, holds⟩ := holding
    have unique : ∀ other, document.HoldsJobs other → other = members := by
      intro other otherHolds
      rw [Node.holdsJobs_iff distinct] at holds otherHolds
      rw [holds] at otherHolds
      exact (Node.mapping.inj (Option.some.inj otherHolds)).symm
    rw [ofNode_of_holdsJobs distinct holds]
    rcases jobsIn_cases members with ⟨named, listed⟩ | ⟨unnamed, listed⟩
    · left
      rw [listed]
      exact ⟨⟨members, holds, named⟩, members, _, holds, unique, rfl, rfl⟩
    · right
      rw [listed]
      refine ⟨?_, .noJobs, rfl⟩
      rintro ⟨other, otherHolds, named⟩
      exact unnamed (unique other otherHolds ▸ named)
  · right
    obtain ⟨reason, refused⟩ := ofNode_of_none distinct fun members holds => holding ⟨members, holds⟩
    rw [refused]
    exact ⟨fun ⟨members, holds, _⟩ => holding ⟨members, holds⟩, reason, rfl⟩

theorem namesJob_of_keys {document : Node} {members others : List (Node × Node)}
    (holds : document.HoldsJobs others) (keys : others.map (·.1) = members.map (·.1))
    (named : ∃ entry ∈ members, ∃ name, entry.1.Wraps (.string name)) : document.NamesJob := by
  obtain ⟨entry, known, name, named⟩ := named
  have key : entry.1 ∈ others.map (·.1) := keys ▸ List.mem_map_of_mem known
  obtain ⟨other, otherKnown, same⟩ := List.mem_map.mp key
  exact ⟨others, holds, other, otherKnown, name, same ▸ named⟩

/-- A text is accepted just if its merged document has the least shape. The jobs are the members whose
keys are texts, one each and in their order, and a text with the same keys of jobs is accepted with
the same names, whatever else its document holds. -/
theorem parse_accepts_iff {text : String} {node document : Node}
    (read : Yaml.readNode text = .ok node) (merged : node.merge = .ok document) :
    ((∃ config, parse text = .ok config) ↔ document.NamesJob) ∧
      (¬document.NamesJob → ∃ reason, parse text = .error (.unusable reason)) ∧
      ∀ config, parse text = .ok config → ∀ members, document.HoldsJobs members →
        List.Forall₂ (fun entry job => entry.1.Wraps (.string job.name))
            (members.filter fun entry => entry.1.isNamed) config.jobs ∧
          ∀ otherText otherNode otherDocument otherMembers,
            Yaml.readNode otherText = .ok otherNode → otherNode.merge = .ok otherDocument →
            otherDocument.HoldsJobs otherMembers →
            otherMembers.map (·.1) = members.map (·.1) →
            ∃ otherConfig, parse otherText = .ok otherConfig ∧
              otherConfig.jobs.map (·.name) = config.jobs.map (·.name) := by
  rcases parse_cases read merged with ⟨shape, members, config, holds, unique, accepted, jobs⟩ |
    ⟨shapeless, reason, refused⟩
  · refine ⟨⟨fun _ => shape, fun _ => ⟨config, accepted⟩⟩, fun shapeless => absurd shape shapeless, ?_⟩
    intro found parsed own ownHolds
    rw [accepted] at parsed
    obtain rfl := Except.ok.inj parsed
    obtain rfl := unique own ownHolds
    refine ⟨?_, ?_⟩
    · rw [jobs]
      refine (forall₂_ofMember? own).imp fun entry job made => ?_
      exact Node.wraps_string_iff.mpr (Job.name_of_member made)
    · intro otherText otherNode otherDocument otherMembers otherRead otherMerged otherHolds keys
      obtain ⟨held, isHeld, named⟩ := shape
      obtain rfl := unique held isHeld
      have otherShape := namesJob_of_keys otherHolds keys named
      rcases parse_cases otherRead otherMerged with
        ⟨_, _, otherConfig, _, otherUnique, otherAccepted, otherJobs⟩ | ⟨shapeless, _⟩
      · obtain rfl := otherUnique otherMembers otherHolds
        refine ⟨otherConfig, otherAccepted, ?_⟩
        rw [jobs, otherJobs, names_ofMember?, names_ofMember?, keys]
      · exact absurd otherShape shapeless
  · refine ⟨⟨?_, fun shape => absurd shape shapeless⟩, fun _ => ⟨reason, refused⟩, ?_⟩
    · rintro ⟨config, accepted⟩
      rw [refused] at accepted
      cases accepted
    · intro config accepted
      rw [refused] at accepted
      cases accepted

def oddBodies : String :=
  "!pipeline\nworkflows: 7\njobs:\n  1: {}\n  !old build: nonsense\n  test: [docker]\norbs: [node]\n"

theorem parse_accepts_iff_oddBodies :
    ∃ node document members config, Yaml.readNode oddBodies = .ok node ∧
      node.merge = .ok document ∧ document.NamesJob ∧ document.HoldsJobs members ∧
      parse oddBodies = .ok config ∧ config.jobs.map (·.name) = ["build", "test"] ∧
      (members.filter fun entry => entry.1.isNamed).length = 2 := by
  have merges : ((Yaml.readNode oddBodies).toOption.bind fun node => node.merge.toOption).isSome =
      true := by
    decide +kernel
  obtain ⟨document, found⟩ := Option.isSome_iff_exists.mp merges
  simp only [Option.bind_eq_some_iff, toOption_eq_some_iff] at found
  obtain ⟨node, read, merged⟩ := found
  have names : (parse oddBodies).toOption.map (fun config => config.jobs.map (·.name)) =
      some ["build", "test"] := by
    decide +kernel
  obtain ⟨config, accepted, jobs⟩ := Option.map_eq_some_iff.mp names
  have accepted := toOption_eq_some_iff.mp accepted
  obtain ⟨accepts, _, reads⟩ := parse_accepts_iff read merged
  have shape := accepts.mp ⟨config, accepted⟩
  obtain ⟨members, holds, _⟩ := shape
  have listed := (reads config accepted members holds).1.length_eq
  have count := congrArg List.length jobs
  rw [List.length_map] at count
  exact ⟨node, document, members, config, read, merged, accepts.mp ⟨config, accepted⟩, holds, accepted,
    jobs, listed.trans count⟩

end Config

end PipelineAdvisor
