import Mathlib.Data.List.Nodup
import Mathlib.Data.List.Perm.Basic
import PipelineAdvisor.Proofs.Analysis.ReportOrder

/-!
The ids of findings. An id joins category, rule and subject with hyphens, and a subject may have any
number of hyphens itself. Still no opening that the checks write begins another one, so an id tells
its check, its rule and its subject; and no check says the same twice about one subject.
-/

namespace PipelineAdvisor

namespace Finding

def idOpening (category : Category) (rule : String) : List Char :=
  (category.slug ++ "-" ++ rule ++ "-").toList

theorem idOf_toList (category : Category) (rule subject : String) :
    (idOf category rule subject).toList = idOpening category rule ++ subject.toList := by
  rw [idOf, idOpening, String.toList_append]

end Finding

namespace Check

theorem mem_all (check : Check) : check ∈ all := by
  cases check <;> decide

/-- Among the openings of all checks none begins another one. -/
theorem idOpening_prefixFree : ∀ check ∈ all, ∀ rule ∈ check.names, ∀ other ∈ all,
    ∀ otherRule ∈ other.names,
      (Finding.idOpening check.category rule).isPrefixOf
          (Finding.idOpening other.category otherRule) = true →
        check = other ∧ rule = otherRule := by
  decide +kernel

theorem idOf_inj {check other : Check} {rule otherRule subject otherSubject : String}
    (known : rule ∈ check.names) (otherKnown : otherRule ∈ other.names)
    (same : Finding.idOf check.category rule subject =
      Finding.idOf other.category otherRule otherSubject) :
    check = other ∧ rule = otherRule ∧ subject = otherSubject := by
  have texts := congrArg String.toList same
  rw [Finding.idOf_toList, Finding.idOf_toList] at texts
  -- Both openings begin the same text, so one of them begins the other.
  have equal : check = other ∧ rule = otherRule := by
    have first := List.prefix_append (Finding.idOpening check.category rule) subject.toList
    have second := List.prefix_append (Finding.idOpening other.category otherRule)
      otherSubject.toList
    rw [← texts] at second
    rcases List.prefix_or_prefix_of_prefix first second with begins | begins
    · exact idOpening_prefixFree check (mem_all check) rule known other (mem_all other) otherRule
        otherKnown (List.isPrefixOf_iff_prefix.mpr begins)
    · have swapped := idOpening_prefixFree other (mem_all other) otherRule otherKnown check
        (mem_all check) rule known (List.isPrefixOf_iff_prefix.mpr begins)
      exact ⟨swapped.1.symm, swapped.2.symm⟩
  obtain ⟨rfl, rfl⟩ := equal
  exact ⟨rfl, rfl, String.toList_inj.mp (List.append_cancel_left texts)⟩

/-- The id of a finding tells its check and its subject. -/
theorem Form.eq_of_id {check other : Check} {subject otherSubject : String}
    {finding otherFinding : Finding} (form : Form check subject finding)
    (otherForm : Form other otherSubject otherFinding) (same : finding.id = otherFinding.id) :
    check = other ∧ subject = otherSubject := by
  obtain ⟨rule, known, id⟩ := form.id
  obtain ⟨otherRule, otherKnown, otherId⟩ := otherForm.id
  rw [id, otherId] at same
  obtain ⟨checks, _, subjects⟩ := idOf_inj known otherKnown same
  exact ⟨checks, subjects⟩

theorem orbReuse_ids_nodup (config : Config) (job : Job) :
    ((OrbReuse.inspectJob config job).map (·.id)).Nodup := by
  have slugs : (OrbReuse.patterns.map (·.slug)).Nodup := by
    decide
  have ids : (OrbReuse.patterns.map fun pattern => (OrbReuse.suggestion job pattern).id).Nodup := by
    rw [List.nodup_iff_pairwise_ne, List.pairwise_map] at slugs ⊢
    refine List.Pairwise.imp_of_mem ?_ slugs
    intro pattern other known otherKnown differ same
    have slug : pattern.slug ∈ orbReuse.names := List.mem_map_of_mem known
    have otherSlug : other.slug ∈ orbReuse.names := List.mem_map_of_mem otherKnown
    exact differ (idOf_inj slug otherSlug same).2.1
  rw [OrbReuse.inspectJob, List.map_map]
  exact ids.sublist (List.filter_sublist.map _)

theorem ofJob_ids_nodup (check : Check) (config : Config) (job : Job) :
    ((check.ofJob config job).map (·.id)).Nodup := by
  have optional : ∀ found : Option Finding, (found.toList.map (·.id)).Nodup := by
    intro found
    cases found <;> simp
  cases check with
  | oversizedTier =>
      rw [ofJob]
      split
      · exact optional _
      · simp
  | missingCache =>
      simp only [ofJob]
      split
      · split <;> simp
      · simp
  | orbReuse => exact orbReuse_ids_nodup config job
  | testSplitting => exact optional _
  | hardcodedSecret => exact optional _
  | fanOut => simp [ofJob]
  | missingApproval => simp [ofJob]
  | _ =>
      rw [ofJob]
      split <;> simp

theorem ofWorkflow_ids_nodup (check : Check) (workflow : Workflow) :
    ((check.ofWorkflow workflow).map (·.id)).Nodup := by
  cases check with
  | fanOut =>
      rw [ofWorkflow]
      cases Parallelism.inspectWorkflow? workflow <;> simp
  | missingApproval =>
      rw [ofWorkflow]
      split <;> simp
  | _ => simp [ofWorkflow]

theorem ids_nodup_of_names {α : Type} {check : Check} {subjects : List α} {name : α → String}
    {found : α → List Finding} (names : (subjects.map name).Nodup)
    (each : ∀ subject, ((found subject).map (·.id)).Nodup)
    (form : ∀ subject, ∀ finding ∈ found subject, Form check (name subject) finding) :
    ((subjects.flatMap found).map (·.id)).Nodup := by
  rw [List.map_flatMap, List.nodup_flatMap]
  refine ⟨fun subject _ => each subject, ?_⟩
  rw [List.nodup_iff_pairwise_ne, List.pairwise_map] at names
  refine names.imp ?_
  intro subject other differ id inFirst inSecond
  obtain ⟨finding, inFound, rfl⟩ := List.mem_map.mp inFirst
  obtain ⟨otherFinding, inOther, same⟩ := List.mem_map.mp inSecond
  have equal := (form subject finding inFound).eq_of_id (form other otherFinding inOther) same.symm
  exact differ equal.2

theorem emitted_ids_nodup (check : Check) {config : Config}
    (jobNames : (config.jobs.map (·.name)).Nodup)
    (workflowNames : (config.workflows.map (·.name)).Nodup) :
    ((check.emitted config).map (·.id)).Nodup := by
  have ofJobs := ids_nodup_of_names jobNames (ofJob_ids_nodup check config)
    fun _ _ found => ofJob_form found
  have ofWorkflows := ids_nodup_of_names workflowNames (ofWorkflow_ids_nodup check)
    fun _ _ found => ofWorkflow_form found
  -- A job and a workflow may share a name, but no check is about both.
  cases check with
  | fanOut | missingApproval =>
      rw [emitted_of_workflows (fun _ _ => rfl)]
      exact ofWorkflows
  | _ =>
      rw [emitted_of_jobs (fun _ => rfl)]
      exact ofJobs

theorem emitted_ids_disjoint {check other : Check} (differ : check ≠ other) (config : Config) :
    List.Disjoint ((check.emitted config).map (·.id)) ((other.emitted config).map (·.id)) := by
  intro id inFirst inSecond
  obtain ⟨finding, found, rfl⟩ := List.mem_map.mp inFirst
  obtain ⟨otherFinding, otherFound, same⟩ := List.mem_map.mp inSecond
  obtain ⟨subject, form⟩ := exists_form_of_emitted found
  obtain ⟨otherSubject, otherForm⟩ := exists_form_of_emitted otherFound
  exact differ (form.eq_of_id otherForm same.symm).1

theorem block_perm_emitted (check : Check) (config : Config) :
    (check.block config).Perm (check.emitted config) := by
  cases check with
  | oversizedTier => exact List.mergeSort_perm _ _
  | _ => exact List.Perm.refl _

end Check

open Check

theorem analyze_findings_perm (config : Config) :
    (analyze config).findings.Perm (Check.all.flatMap fun check => check.emitted config) := by
  rw [analyze_findings_eq_blocks]
  exact List.Perm.flatMap_left Check.all fun check _ => block_perm_emitted check config

/-- Configurations whose jobs differ in name, and whose workflows do, get reports in which all ids
differ. -/
theorem analyze_ids_nodup {config : Config} (jobNames : (config.jobs.map (·.name)).Nodup)
    (workflowNames : (config.workflows.map (·.name)).Nodup) :
    ((analyze config).findings.map (·.id)).Nodup := by
  rw [((analyze_findings_perm config).map (·.id)).nodup_iff, List.map_flatMap, List.nodup_flatMap]
  refine ⟨fun check _ => emitted_ids_nodup check jobNames workflowNames, ?_⟩
  have checks : Check.all.Pairwise (· ≠ ·) := by
    decide
  exact checks.imp fun differ => emitted_ids_disjoint differ config

def lookalikes : Config where
  jobs := [{ name := "tests", executor := .docker none },
    { name := "unspecified-tests", executor := .docker none },
    { name := "workflow-tests", executor := .docker none }]
  workflows := [⟨"tests", [{ name := "a" }, { name := "b" }]⟩,
    ⟨"tests-tests", [{ name := "a" }, { name := "b" }]⟩]

theorem analyze_ids_nodup_lookalikes :
    (lookalikes.jobs.map (·.name)).Nodup ∧ (lookalikes.workflows.map (·.name)).Nodup ∧
      (Check.all.flatMap fun check => check.emitted lookalikes).length = 8 ∧
      ((analyze lookalikes).findings.map (·.id)).Nodup := by
  refine ⟨by decide, by decide, by decide +kernel, ?_⟩
  exact analyze_ids_nodup (by decide) (by decide)

end PipelineAdvisor
