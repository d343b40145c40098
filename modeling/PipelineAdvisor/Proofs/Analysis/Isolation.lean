import PipelineAdvisor.Rules.Analysis
import Mathlib.Data.List.Forall2

/-!
Failing analyzers. Whatever order analyzers finish in, their outcomes are those of a run one after
the other; and a failing analyzer costs its own findings and adds its own fault, nothing else.
-/

namespace PipelineAdvisor

namespace Analyzer

def succeeds (analyzer : Analyzer) (config : Config) : Bool :=
  (analyzer.inspect config).isOk

def LeavesFault (config : Config) (analyzer : Analyzer) (fault : Fault) : Prop :=
  fault.analyzer = analyzer.name ∧ ∃ reason, analyzer.inspect config = .error reason ∧
    fault.message = reason.getD "analyzer panicked"

end Analyzer

namespace Analysis

inductive Schedule (count : Nat) where
  | sequential
  | parallel (finished : List Nat) (complete : finished.Perm (List.range count))

def runBy (analyzers : List Analyzer) (schedule : Schedule analyzers.length) (config : Config) :
    AnalysisResult :=
  match schedule with
  | .sequential => resultOf (outcomes analyzers config)
  | .parallel finished _ => resultOf (outcomesFinishing analyzers config finished)

def settle (analyzers : List Analyzer) (config : Config) (slots : List (Option Outcome))
    (place : Nat) : List (Option Outcome) :=
  slots.set place ((analyzers[place]?).map (·.outcome config))

/-- The slots of the analyzers that have finished hold their outcomes, the others are empty. -/
structure Settled (analyzers : List Analyzer) (config : Config) (finished : Nat → Prop)
    (slots : List (Option Outcome)) : Prop where
  size : slots.length = analyzers.length
  filled : ∀ place (bound : place < analyzers.length), finished place →
    slots[place]? = some (some (analyzers[place].outcome config))
  empty : ∀ place, place < analyzers.length → ¬finished place → slots[place]? = some none

theorem settled_initial (analyzers : List Analyzer) (config : Config) :
    Settled analyzers config (fun _ => False) (List.replicate analyzers.length none) where
  size := List.length_replicate
  filled := fun _ _ impossible => impossible.elim
  empty := by
    intro place bound _
    rw [List.getElem?_replicate, if_pos bound]

theorem Settled.settle {analyzers : List Analyzer} {config : Config} {finished : Nat → Prop}
    {slots : List (Option Outcome)} (settled : Settled analyzers config finished slots)
    (place : Nat) :
    Settled analyzers config (fun other => finished other ∨ other = place)
      (settle analyzers config slots place) where
  size := by rw [Analysis.settle, List.length_set, settled.size]
  filled := by
    intro other bound done
    rw [Analysis.settle, List.getElem?_set]
    by_cases same : place = other
    · subst other
      rw [if_pos rfl, if_pos (by rw [settled.size]; exact bound), List.getElem?_eq_getElem bound]
      rfl
    · rw [if_neg same]
      exact settled.filled other bound (done.resolve_right (Ne.symm same))
  empty := by
    intro other bound waiting
    rw [not_or] at waiting
    rw [Analysis.settle, List.getElem?_set, if_neg (Ne.symm waiting.2)]
    exact settled.empty other bound waiting.1

theorem Settled.run {analyzers : List Analyzer} {config : Config} {finished : Nat → Prop}
    {slots : List (Option Outcome)} (settled : Settled analyzers config finished slots)
    (order : List Nat) :
    Settled analyzers config (fun place => finished place ∨ place ∈ order)
      (order.foldl (Analysis.settle analyzers config) slots) := by
  induction order generalizing finished slots with
  | nil => simpa using settled
  | cons place rest ih =>
      have next := ih (settled.settle place)
      simpa only [List.foldl_cons, List.mem_cons, or_assoc] using next

/-- Analyzers that finish in any order have the outcomes of a run one after the other. -/
theorem outcomesFinishing_eq (analyzers : List Analyzer) (config : Config) {finished : List Nat}
    (complete : finished.Perm (List.range analyzers.length)) :
    outcomesFinishing analyzers config finished = outcomes analyzers config := by
  have settled := (settled_initial analyzers config).run finished
  have slots : finished.foldl (settle analyzers config) (List.replicate analyzers.length none) =
      (outcomes analyzers config).map some := by
    apply List.ext_getElem?
    intro place
    by_cases bound : place < analyzers.length
    · have done : place ∈ finished := complete.mem_iff.mpr (List.mem_range.mpr bound)
      rw [settled.filled place bound (Or.inr done)]
      simp [outcomes, bound]
    · rw [List.getElem?_eq_none (by rw [settled.size]; omega),
        List.getElem?_eq_none (by simp [outcomes]; omega)]
  change (finished.foldl (settle analyzers config) _).filterMap id = _
  rw [slots, List.filterMap_map]
  exact List.filterMap_some

theorem runBy_eq_run (analyzers : List Analyzer) (schedule : Schedule analyzers.length)
    (parallel : Bool) (config : Config) :
    runBy analyzers schedule config = run analyzers parallel config := by
  have sequential : run analyzers parallel config = resultOf (outcomes analyzers config) := by
    cases parallel with
    | false => rfl
    | true => exact congrArg resultOf (outcomesFinishing_eq analyzers config (List.Perm.refl _))
  rw [sequential]
  cases schedule with
  | sequential => rfl
  | parallel finished complete =>
      exact congrArg resultOf (outcomesFinishing_eq analyzers config complete)

theorem findingsOf_working (analyzers : List Analyzer) (config : Config) :
    findingsOf (outcomes (analyzers.filter (·.succeeds config)) config) =
      findingsOf (outcomes analyzers config) := by
  induction analyzers with
  | nil => rfl
  | cons analyzer rest ih =>
      simp only [outcomes, findingsOf, List.map_cons, List.flatMap_cons] at ih ⊢
      cases inspected : analyzer.inspect config with
      | ok findings =>
          have works : analyzer.succeeds config = true := by
            rw [Analyzer.succeeds, inspected]
            rfl
          rw [List.filter_cons, if_pos works, List.map_cons, List.flatMap_cons, ih]
      | error reason =>
          have fails : analyzer.succeeds config = false := by
            rw [Analyzer.succeeds, inspected]
            rfl
          have failed : ∃ fault, analyzer.outcome config = .error fault := by
            rw [Analyzer.outcome, inspected]
            exact ⟨_, rfl⟩
          obtain ⟨fault, failed⟩ := failed
          rw [List.filter_cons, if_neg (by rw [fails]; decide), ih, failed]
          rfl

theorem faultsOf_failing (analyzers : List Analyzer) (config : Config) :
    List.Forall₂ (Analyzer.LeavesFault config)
      (analyzers.filter fun analyzer => !analyzer.succeeds config)
      (faultsOf (outcomes analyzers config)) := by
  induction analyzers with
  | nil => exact List.Forall₂.nil
  | cons analyzer rest ih =>
      simp only [outcomes, faultsOf, List.filterMap_map] at ih ⊢
      cases inspected : analyzer.inspect config with
      | ok findings =>
          have works : analyzer.succeeds config = true := by
            rw [Analyzer.succeeds, inspected]
            rfl
          have gave : analyzer.outcome config = .ok findings := by
            rw [Analyzer.outcome, inspected]
            rfl
          rw [List.filterMap_cons_none (by simp [gave])]
          simpa [works] using ih
      | error reason =>
          have fails : analyzer.succeeds config = false := by
            rw [Analyzer.succeeds, inspected]
            rfl
          have failed : analyzer.outcome config =
              .error ⟨analyzer.name, reason.getD "analyzer panicked"⟩ := by
            rw [Analyzer.outcome, inspected]
            rfl
          have left : analyzer.LeavesFault config ⟨analyzer.name, reason.getD "analyzer panicked"⟩ :=
            ⟨rfl, reason, inspected, rfl⟩
          rw [List.filter_cons, if_pos (by rw [fails]; rfl), List.filterMap_cons, Function.comp_apply,
            failed]
          exact List.Forall₂.cons left ih

/-- Under every schedule a run gives what the working analyzers alone give under every schedule of
theirs, and one fault for each failing analyzer. -/
theorem runBy_isolates_failures (analyzers : List Analyzer) (config : Config)
    (schedule : Schedule analyzers.length)
    (reduced : Schedule (analyzers.filter (·.succeeds config)).length) (parallel : Bool) :
    run analyzers parallel config = runBy analyzers schedule config ∧
      runBy analyzers schedule config =
        { runBy (analyzers.filter (·.succeeds config)) reduced config with
          faults := (runBy analyzers schedule config).faults } ∧
      List.Forall₂ (Analyzer.LeavesFault config)
        (analyzers.filter fun analyzer => !analyzer.succeeds config)
        (runBy analyzers schedule config).faults := by
  have sequential := runBy_eq_run analyzers schedule false config
  refine ⟨?_, ?_, ?_⟩
  · exact (runBy_eq_run analyzers schedule parallel config).symm
  · rw [sequential, runBy_eq_run _ reduced false config]
    simp only [run, Bool.false_eq_true, if_false, resultOf, findingsOf_working, summarize]
  · rw [sequential]
    exact faultsOf_failing analyzers config

end Analysis

end PipelineAdvisor
