import PipelineAdvisor.Proofs.Rules.Outline
import PipelineAdvisor.Proofs.Yaml.Scalars

/-!
When a job gets a finding about a secret, said of the scalars of its steps and not of their written
form. A step is skipped just if one of its scalars takes a value from a variable. Otherwise a scalar
with a long run is reported, and so is one in which a run right behind a control character is long
enough together with the letters that the control character is written with.
-/

namespace PipelineAdvisor

open Text (occursIn SplitsAt)

namespace Json

variable {test : List Char → Bool}

theorem cutAtControls_any
    (splits : SplitsAt (fun c => c.isAlphanum = true ∨ c.toNat < 0x20) test)
    (front text : List Char) :
    (test (front ++ (cutAtControls text).1) || (cutAtControls text).2.any test) =
      test (front ++ text) := by
  induction text generalizing front with
  | nil => rw [cutAtControls, List.any_nil, Bool.or_false]
  | cons c rest ih =>
      by_cases control : c.toNat < 0x20
      · have later := ih []
        rw [List.nil_append, List.nil_append] at later
        have letters := (HardcodedSecret.escapeChar_letters control).1
        rw [cutAtControls_control control, List.append_nil, List.any_cons,
          splits.skip fun c known => Or.inl (letters c known), later,
          splits.split c (Or.inr control)]
      · have joined := ih (front ++ [c])
        rw [List.append_assoc, List.append_assoc, List.singleton_append,
          List.singleton_append] at joined
        rw [cutAtControls_visible control, joined]

theorem stretches_any (splits : SplitsAt (fun c => c.isAlphanum = true ∨ c.toNat < 0x20) test)
    (text : List Char) : (stretches text).any test = test text := by
  rw [stretches, List.any_cons]
  exact cutAtControls_any splits [] text

end Json

namespace Yaml.Node

def Interpolates (node : Node) : Prop :=
  ∃ scalar ∈ node.scalars, ∃ mark ∈ HardcodedSecret.interpolationMarks, mark.toList <:+: scalar

end Yaml.Node

namespace HardcodedSecret

theorem interpolationMarks_split {mark : String} (known : mark ∈ interpolationMarks) :
    SplitsAt Json.IsMark (occursIn mark.toList) ∧
      SplitsAt (fun c => c.isAlphanum = true ∨ c.toNat < 0x20) (occursIn mark.toList) := by
  have shape : interpolationMarks.all (fun mark => isKeyword mark.toList &&
      (!mark.toList.isEmpty && mark.toList.all fun c => !c.isAlphanum && 0x20 ≤ c.toNat)) = true := by
    decide
  have here := List.all_eq_true.mp shape mark known
  simp only [Bool.and_eq_true, Bool.not_eq_true', List.isEmpty_eq_false_iff, List.all_eq_true,
    decide_eq_true_eq] at here
  obtain ⟨keyword, filled, plain⟩ := here
  refine ⟨isKeyword_splitsAt keyword, Text.occursIn_splitsAt filled ?_⟩
  rintro c (letter | control) inMark
  · rw [(plain c inMark).1] at letter
    exact Bool.noConfusion letter
  · have visible := (plain c inMark).2
    omega

theorem exists_piece_iff {step : Step} (plain : step.node.hasPlainKeys = true)
    (holds : List Char → Prop) : (∃ piece ∈ step.pieces, holds piece) ↔
      ∃ scalar ∈ step.node.scalars, ∃ stretch ∈ Json.stretches scalar, holds stretch := by
  obtain ⟨image, imaged, seen⟩ := Yaml.Node.image?_of_plainKeys plain
  simp only [Step.pieces, imaged, seen, List.mem_flatMap]
  constructor
  · rintro ⟨stretch, ⟨scalar, inNode, inScalar⟩, holdsThere⟩
    exact ⟨scalar, inNode, stretch, inScalar, holdsThere⟩
  · rintro ⟨scalar, inNode, stretch, inScalar, holdsThere⟩
    exact ⟨stretch, ⟨scalar, inNode, inScalar⟩, holdsThere⟩

theorem serialized_interpolates_iff {step : Step} (plain : step.node.hasPlainKeys = true) :
    (interpolationMarks.any fun mark => occursIn mark.toList step.serialized) = true ↔
      step.node.Interpolates := by
  have byMark : ∀ mark ∈ interpolationMarks, (occursIn mark.toList step.serialized = true ↔
      ∃ scalar ∈ step.node.scalars, mark.toList <:+: scalar) := by
    intro mark known
    obtain ⟨splits, unescaped⟩ := interpolationMarks_split known
    rw [Step.serialized_test splits, List.any_eq_true, exists_piece_iff plain]
    refine exists_congr fun scalar => and_congr_right fun _ => ?_
    rw [← List.any_eq_true, Json.stretches_any unescaped, Text.occursIn_iff_infix]
  rw [List.any_eq_true, Yaml.Node.Interpolates]
  constructor
  · rintro ⟨mark, known, occurs⟩
    obtain ⟨scalar, inNode, inScalar⟩ := (byMark mark known).mp occurs
    exact ⟨scalar, inNode, mark, known, inScalar⟩
  · rintro ⟨scalar, inNode, mark, known, inScalar⟩
    exact ⟨mark, known, (byMark mark known).mpr ⟨scalar, inNode, inScalar⟩⟩

theorem serialized_hasLongRun_iff {step : Step} (plain : step.node.hasPlainKeys = true) :
    (firstLongRun? step.serialized).isSome = true ↔
      ∃ scalar ∈ step.node.scalars, HasLongRun scalar ∨ HasRunBehindControl scalar := by
  rw [Step.serialized_find firstLongRun?_partsAt, List.isSome_findSome?, List.any_eq_true]
  simp only [← hasLongRun_iff, exists_piece_iff plain, exists_stretch_hasLongRun]

theorem candidate?_isSome_iff {step : Step} (plain : step.node.hasPlainKeys = true) :
    (candidate? step.serialized).isSome = true ↔ ¬step.node.Interpolates ∧
      ∃ scalar ∈ step.node.scalars, HasLongRun scalar ∨ HasRunBehindControl scalar := by
  rw [← serialized_interpolates_iff plain, ← serialized_hasLongRun_iff plain, candidate?]
  split
  next marked => simp [marked]
  next unmarked => simp [unmarked]

/-- A job gets a finding just if one of its steps takes no value from a variable and has a scalar
with a long run, or with a run that is long enough behind a control character. Where no such run is
short in itself, only long runs are reported. -/
theorem inspect_reports_iff {config : Config} {job : Job} (listed : job ∈ config.jobs)
    (plain : ∀ step ∈ job.steps, step.node.hasPlainKeys = true) :
    ((∃ finding ∈ inspect config, inspectJob? job = some finding) ↔
        ∃ step ∈ job.steps, ¬step.node.Interpolates ∧
          ∃ scalar ∈ step.node.scalars, HasLongRun scalar ∨ HasRunBehindControl scalar) ∧
      ((∀ step ∈ job.steps, ∀ scalar ∈ step.node.scalars,
          HasRunBehindControl scalar → HasLongRun scalar) →
        ((∃ finding ∈ inspect config, inspectJob? job = some finding) ↔
          ∃ step ∈ job.steps, ¬step.node.Interpolates ∧
            ∃ scalar ∈ step.node.scalars, HasLongRun scalar)) := by
  have reported : (∃ finding ∈ inspect config, inspectJob? job = some finding) ↔
      ∃ step ∈ job.steps, ¬step.node.Interpolates ∧
        ∃ scalar ∈ step.node.scalars, HasLongRun scalar ∨ HasRunBehindControl scalar := by
    have emitted : (∃ finding ∈ inspect config, inspectJob? job = some finding) ↔
        (suspiciousStep? job).isSome = true := by
      rw [← Option.isSome_map (f := fun found => finding job found.1 found.2), ← inspectJob?,
        Option.isSome_iff_exists]
      refine exists_congr fun finding => and_iff_right_of_imp fun found => ?_
      exact List.mem_filterMap.mpr ⟨job, listed, found⟩
    rw [emitted, isSome_suspiciousStep?, List.any_eq_true]
    refine exists_congr fun step => and_congr_right fun inJob => ?_
    rw [candidate?_isSome_iff (plain step inJob)]
  refine ⟨reported, ?_⟩
  intro longAnyway
  rw [reported]
  refine exists_congr fun step => and_congr_right fun inJob => and_congr_right fun _ => ?_
  refine exists_congr fun scalar => and_congr_right fun inStep => ?_
  exact or_iff_left_of_imp (longAnyway step inJob scalar inStep)

theorem inspect_reports_early_key :
    ∃ finding ∈ inspect ⟨[deployJob earlyKeyCommand], [], []⟩,
      inspectJob? (deployJob earlyKeyCommand) = some finding := by
  have listed : deployJob earlyKeyCommand ∈
      (Config.mk [deployJob earlyKeyCommand] [] []).jobs := List.mem_singleton.mpr rfl
  apply (inspect_reports_iff listed (by decide +kernel)).1.mpr
  have unmarked : (interpolationMarks.any fun mark =>
      occursIn mark.toList (bareRun earlyKeyCommand).serialized) = false := by
    decide +kernel
  have plain : accessKey.all Char.isAlphanum = true := by decide +kernel
  refine ⟨bareRun earlyKeyCommand, List.mem_singleton.mpr rfl, ?_, earlyKeyCommand.toList,
    by decide +kernel, Or.inl ⟨accessKey, ⟨by decide, List.all_eq_true.mp plain⟩, ?_⟩⟩
  · rw [← serialized_interpolates_iff (by decide +kernel), unmarked]
    exact Bool.false_ne_true
  · exact Text.occursIn_iff_infix.mp (by decide +kernel)

def twoLineCommand : String := "cd app\nrunintegrationtests\n"

/-- No scalar of the step holds a run of twenty, and the job gets a finding. -/
theorem inspect_reports_short_run :
    (∀ step ∈ (deployJob twoLineCommand).steps, step.node.hasPlainKeys = true) ∧
      (∀ step ∈ (deployJob twoLineCommand).steps,
        ∀ scalar ∈ step.node.scalars, ¬HasLongRun scalar) ∧
      ∃ finding ∈ inspect ⟨[deployJob twoLineCommand], [], []⟩,
        inspectJob? (deployJob twoLineCommand) = some finding := by
  refine ⟨by decide +kernel, ?_, _, List.mem_singleton.mpr rfl, rfl⟩
  simp only [hasLongRun_iff]
  decide +kernel

end HardcodedSecret

end PipelineAdvisor
