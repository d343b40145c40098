import PipelineAdvisor.Proofs.Pipeline.Sections
import PipelineAdvisor.Proofs.Yaml.Inheritance

/-!
Fields that a job inherits. A job is read from the values that its body gives through its own merge
key; a value that lies behind more than one merge key does not reach the job.
-/

namespace PipelineAdvisor

open Yaml (Node)

namespace Job

def fields : List String :=
  ["docker", "machine", "macos", "resource_class", "parallelism", "steps"]

/-- The job whose body has these values, merged, and no merge key. -/
def ofFields (name : String) (reading : String → Option (Nat × Node)) : Job :=
  ofBody name (.mapping (fields.filterMap fun field =>
    ((reading field).bind fun found => found.2.merge.toOption).map fun value =>
      (.string field, value)))

theorem ofBody_congr {body other : Node} (name : String)
    (same : ∀ field ∈ fields, body.get? field = other.get? field) :
    ofBody name body = ofBody name other := by
  have docker := same "docker" (by simp [fields])
  have machine := same "machine" (by simp [fields])
  have macos := same "macos" (by simp [fields])
  have resourceClass := same "resource_class" (by simp [fields])
  have parallelism := same "parallelism" (by simp [fields])
  have steps := same "steps" (by simp [fields])
  simp only [ofBody, Executor.ofBody, docker, machine, macos, resourceClass, parallelism, steps]

theorem lookup?_filterMap (value? : String → Option Node) (names : List String) (field : String) :
    Node.lookup? field (names.filterMap fun name => (value? name).map fun value =>
      (.string name, value)) = if field ∈ names then value? field else none := by
  induction names with
  | nil => rfl
  | cons name rest ih =>
      cases present : value? name with
      | none =>
          rw [List.filterMap_cons_none (by rw [present]; rfl), ih]
          by_cases same : field = name
          · simp [same, present]
          · simp [same]
      | some value =>
          rw [List.filterMap_cons_some (by rw [present]; rfl), Node.lookup?, List.find?_cons]
          by_cases same : field = name
          · simp [same, present, Node.isString]
          · have different : (Node.string name).isString field = false := by
              simp [Node.isString, Ne.symm same]
            rw [different]
            simp only [List.mem_cons, same, false_or]
            exact ih

theorem ofBody_eq_ofFields {body out : Node} (name : String) (distinct : body.KeysDistinct)
    (accepted : body.merge = .ok out) : ofBody name out = ofFields name body.near? := by
  apply ofBody_congr
  intro field known
  have other : field ≠ Node.mergeKey := by
    rintro rfl
    simp [fields, Node.mergeKey] at known
  have written := lookup?_filterMap
    (fun name => (body.near? name).bind fun found => found.2.merge.toOption) fields field
  rw [if_pos known] at written
  rw [Node.get?_merge other distinct accepted]
  exact written.symm

theorem eq_ofFields_near {entry : Node × Node} {job : Job} (distinct : entry.2.KeysDistinct)
    (read : ReadFrom ofMember? entry job) : job = ofFields job.name entry.2.near? := by
  obtain ⟨body, merged, made⟩ := read
  obtain ⟨name, text, rfl⟩ := Option.map_eq_some_iff.mp made
  exact ofBody_eq_ofFields name distinct merged

theorem ofFields_congr (name : String) {reading other : String → Option (Nat × Node)}
    (same : ∀ field ∈ fields, reading field = other field) :
    ofFields name reading = ofFields name other := by
  rw [ofFields, ofFields, List.filterMap_congr]
  intro field known
  rw [same field known]

end Job

namespace Config

/-- The entries of the section `jobs` are read one merge key deep: for each field a job has what the
body of its entry gives there, its own value or that of the first mapping under its merge key that
has one. This is the value that the body gives through any number of merge keys just if no more than
one of them lies on the way. -/
theorem parse_reads_one_level {text : String} {config : Config}
    (accepted : parse text = .ok config) :
    ∃ document, Yaml.readNode text = .ok document ∧ ∃ source : config.Source document,
      List.Forall₂ (fun entry job =>
          entry.1.asString? = some job.name ∧ job = Job.ofFields job.name entry.2.near? ∧
          ((∀ field ∈ Job.fields, entry.2.isGivenNear field = true) →
            job = Job.ofFields job.name entry.2.given?))
        (source.jobs.filter Job.isMember) config.jobs ∧
      ∀ entry ∈ source.jobs, ∀ field ∈ Job.fields,
        (entry.2.near? field = entry.2.given? field ↔ entry.2.isGivenNear field = true) := by
  obtain ⟨document, read, distinct, ⟨source⟩⟩ := parse_source accepted
  refine ⟨document, read, source, ?_, fun _ _ _ _ => Node.near?_eq_given?_iff⟩
  have bodies : ∀ entry ∈ source.jobs.filter Job.isMember, entry.2.KeysDistinct := by
    intro entry known
    exact (source.jobs_keysDistinct distinct).values entry (List.mem_of_mem_filter known)
  apply ((List.forall₂_and_left _ _).mpr ⟨bodies, source.readsJobs⟩).imp
  rintro entry job ⟨body, made⟩
  have fields := Job.eq_ofFields_near body made
  obtain ⟨_, _, member⟩ := made
  have name := Job.name_of_member member
  refine ⟨name, fields, ?_⟩
  intro near
  exact fields.trans
    (Job.ofFields_congr job.name fun field known => Node.near?_eq_given?_iff.mpr (near field known))

def inheritedOnce : String :=
  "base: &base\n  docker:\n    - image: ruby\njobs:\n  lint:\n    <<: *base\n    macos: {}\n"

theorem parse_reads_one_level_inheritedOnce :
    ∃ config, parse inheritedOnce = .ok config ∧
      config.jobs.map (·.executor) = [.docker (some "ruby")] ∧
      ∃ document, Yaml.readNode inheritedOnce = .ok document ∧
        ∃ source : config.Source document,
          List.Forall₂ (fun entry job => job = Job.ofFields job.name entry.2.given?)
            (source.jobs.filter Job.isMember) config.jobs := by
  have read : (parse inheritedOnce).toOption.map
      (fun config => config.jobs.map (·.executor)) = some [.docker (some "ruby")] := by
    decide +kernel
  have near : (Yaml.readNode inheritedOnce).toOption.map (fun document =>
      (Node.mergeEntries (document.writtenUnder "jobs")).toOption.map fun jobs =>
        jobs.all fun entry => Job.fields.all entry.2.isGivenNear) = some (some true) := by
    decide +kernel
  obtain ⟨config, found, jobs⟩ := Option.map_eq_some_iff.mp read
  have accepted := toOption_eq_some_iff.mp found
  obtain ⟨document, isDocument, source, each, _⟩ := parse_reads_one_level accepted
  refine ⟨config, accepted, jobs, document, isDocument, source, ?_⟩
  rw [isDocument] at near
  have sections := Option.some.inj near
  dsimp only at sections
  rw [source.joinsJobs] at sections
  have near := List.all_eq_true.mp (Option.some.inj sections)
  have members : ∀ entry ∈ source.jobs.filter Job.isMember, ∀ field ∈ Job.fields,
      entry.2.isGivenNear field = true := by
    intro entry known
    exact List.all_eq_true.mp (near entry (List.mem_of_mem_filter known))
  apply ((List.forall₂_and_left _ _).mpr ⟨members, each⟩).imp
  rintro entry job ⟨body, _, _, same⟩
  exact same body

def inheritedTwice : String :=
  "base: &base\n  docker:\n    - image: ruby\nmid: &mid\n  <<: *base\njobs:\n  lint:\n    <<: *mid\n"

theorem parse_loses_chained_image :
    ∃ config document, parse inheritedTwice = .ok config ∧
      Yaml.readNode inheritedTwice = .ok document ∧
      config.jobs.map (·.executor) = [.unknown] ∧
      (document.writtenUnder "jobs").map (fun entry =>
        (Job.ofFields "lint" entry.2.given?).executor) = [.docker (some "ruby")] := by
  have parsed : (parse inheritedTwice).toOption.map
      (fun config => config.jobs.map (·.executor)) = some [.unknown] := by
    decide +kernel
  have written : (Yaml.readNode inheritedTwice).toOption.map (fun document =>
      (document.writtenUnder "jobs").map fun entry =>
        (Job.ofFields "lint" entry.2.given?).executor) =
          some [.docker (some "ruby")] := by
    decide +kernel
  obtain ⟨config, accepted, executors⟩ := Option.map_eq_some_iff.mp parsed
  obtain ⟨document, read, given⟩ := Option.map_eq_some_iff.mp written
  exact ⟨config, document, toOption_eq_some_iff.mp accepted, toOption_eq_some_iff.mp read, executors,
    given⟩

end Config

end PipelineAdvisor
