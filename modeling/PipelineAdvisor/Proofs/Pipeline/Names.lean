import PipelineAdvisor.Proofs.Pipeline.Sections

/-!
Names of jobs and workflows. Keys of a section are distinct nodes, but a name is what a key holds
inside its tags; so names are distinct just if no two keys differ in their tags only.
-/

namespace PipelineAdvisor

open Yaml (Node)

/-- Keys that hold the same text have the same tags, too, and are the same node. -/
def TagsAgree (entries : List (Node × Node)) : Prop :=
  ∀ entry ∈ entries, ∀ other ∈ entries, entry.1.asString? = other.1.asString? → entry.1 = other.1

theorem texts_nodup_iff_tagsAgree {entries : List (Node × Node)}
    (distinct : (Node.namedKeys entries).Nodup)
    (named : ∀ entry ∈ entries, entry.1.isNamed = true) :
    (entries.map (·.1.asString?)).Nodup ↔ TagsAgree entries := by
  have keys : Node.namedKeys entries = entries.map (·.1) := by
    rw [Node.namedKeys, List.filter_eq_self]
    intro key known
    obtain ⟨entry, inEntries, rfl⟩ := List.mem_map.mp known
    exact named entry inEntries
  constructor
  · intro apart entry known other otherKnown texts
    exact congrArg Prod.fst (List.inj_on_of_nodup_map apart known otherKnown texts)
  · intro agree
    have apart : ((entries.map (·.1)).map Node.asString?).Nodup := by
      apply List.Nodup.map_on _ (keys ▸ distinct)
      intro key known other otherKnown texts
      obtain ⟨entry, inEntries, rfl⟩ := List.mem_map.mp known
      obtain ⟨otherEntry, otherInEntries, rfl⟩ := List.mem_map.mp otherKnown
      exact agree entry inEntries otherEntry otherInEntries texts
    rwa [List.map_map] at apart

theorem names_nodup_iff_tagsAgree {α : Type} {make : Node × Node → Option α} {name : α → String}
    (keeps : ∀ entry item, make entry = some item → entry.1.asString? = some (name item))
    {entries : List (Node × Node)} (distinct : (Node.namedKeys entries).Nodup) {items : List α}
    (reads : List.Forall₂ (ReadFrom make) entries items) :
    (items.map name).Nodup ↔ TagsAgree entries := by
  have texts := texts_of_reads keeps reads
  have named : ∀ entry ∈ entries, entry.1.isNamed = true := by
    intro entry known
    have text : entry.1.asString? ∈ (items.map name).map some := by
      rw [← texts]
      exact List.mem_map_of_mem known
    obtain ⟨name, _, same⟩ := List.mem_map.mp text
    rw [Node.isNamed, ← same]
    rfl
  rw [← texts_nodup_iff_tagsAgree distinct named, texts]
  exact (List.nodup_map_iff fun _ _ => Option.some.inj).symm

theorem find?_name_of_nodup {α : Type} {name : α → String} {items : List α}
    (distinct : (items.map name).Nodup) {item : α} (known : item ∈ items) :
    items.find? (fun other => name other == name item) = some item := by
  induction items with
  | nil => cases known
  | cons first rest ih =>
      rw [List.map_cons, List.nodup_cons] at distinct
      rcases List.mem_cons.mp known with rfl | later
      · simp
      · have differ : (name first == name item) = false := by
          rw [beq_eq_false_iff_ne]
          intro same
          exact distinct.1 (same ▸ List.mem_map_of_mem later)
        rw [List.find?_cons, differ]
        exact ih distinct.2 later

namespace Config

theorem Source.jobNames_nodup_iff {config : Config} {document : Node}
    (source : config.Source document) (distinct : document.KeysDistinct) :
    (config.jobs.map (·.name)).Nodup ↔ TagsAgree (source.jobs.filter Job.isMember) := by
  apply names_nodup_iff_tagsAgree (fun _ _ => Job.name_of_member) _ source.readsJobs
  exact (source.jobs_keysDistinct distinct).names.sublist
    (Node.namedKeys_sublist List.filter_sublist)

theorem Source.workflowNames_nodup_iff {config : Config} {document : Node}
    (source : config.Source document) (distinct : document.KeysDistinct) :
    (config.workflows.map (·.name)).Nodup ↔
      TagsAgree (source.workflows.filter Workflow.isMember) := by
  apply names_nodup_iff_tagsAgree (fun _ _ => Workflow.name_of_member) _ source.readsWorkflows
  exact (source.workflows_keysDistinct distinct).names.sublist
    (Node.namedKeys_sublist List.filter_sublist)

/-- The jobs of an accepted text differ in name just if no two keys of the section differ in their
tags only, and so do its workflows; then every one of them is found by its name. -/
theorem parse_names_nodup_iff {text : String} {config : Config}
    (accepted : parse text = .ok config) :
    ∃ document, Yaml.readNode text = .ok document ∧ ∃ source : config.Source document,
      ((config.jobs.map (·.name)).Nodup ↔ TagsAgree (source.jobs.filter Job.isMember)) ∧
      ((config.workflows.map (·.name)).Nodup ↔
        TagsAgree (source.workflows.filter Workflow.isMember)) ∧
      ((config.jobs.map (·.name)).Nodup → ∀ job ∈ config.jobs,
        config.job? job.name = some job) ∧
      ((config.workflows.map (·.name)).Nodup → ∀ workflow ∈ config.workflows,
        config.workflow? workflow.name = some workflow) := by
  obtain ⟨document, read, distinct, ⟨source⟩⟩ := parse_source accepted
  refine ⟨document, read, source, source.jobNames_nodup_iff distinct,
    source.workflowNames_nodup_iff distinct, ?_, ?_⟩
  · intro names job known
    exact find?_name_of_nodup names known
  · intro names workflow known
    exact find?_name_of_nodup names known

def sharedJobs : String :=
  "shared: &shared\n  lint: {}\n  build: {}\njobs:\n  build: {}\n  <<: *shared\n  test: {}\n"

theorem parse_names_nodup_iff_sharedJobs :
    ∃ config, parse sharedJobs = .ok config ∧
      config.jobs.map (·.name) = ["build", "test", "lint"] ∧
      ∃ document, Yaml.readNode sharedJobs = .ok document ∧ ∃ source : config.Source document,
        TagsAgree (source.jobs.filter Job.isMember) ∧
        ∀ job ∈ config.jobs, config.job? job.name = some job := by
  have names : (parse sharedJobs).toOption.map (fun config => config.jobs.map (·.name)) =
      some ["build", "test", "lint"] := by
    decide +kernel
  obtain ⟨config, accepted, jobs⟩ := Option.map_eq_some_iff.mp names
  have accepted := toOption_eq_some_iff.mp accepted
  have differ : (config.jobs.map (·.name)).Nodup := by
    rw [jobs]
    decide
  obtain ⟨document, read, source, tags, _, found, _⟩ := parse_names_nodup_iff accepted
  exact ⟨config, accepted, jobs, document, read, source, tags.mp differ, found differ⟩

theorem parse_repeats_tagged_name :
    ∃ config, parse "jobs:\n  build: {}\n  !old build: {}\n" = .ok config ∧
      config.jobs.map (·.name) = ["build", "build"] ∧ ¬(config.jobs.map (·.name)).Nodup := by
  have names : (parse "jobs:\n  build: {}\n  !old build: {}\n").toOption.map
      (fun config => config.jobs.map (·.name)) = some ["build", "build"] := by
    decide +kernel
  obtain ⟨config, accepted, jobs⟩ := Option.map_eq_some_iff.mp names
  refine ⟨config, toOption_eq_some_iff.mp accepted, jobs, ?_⟩
  rw [jobs]
  decide

end Config

end PipelineAdvisor
