import Mathlib.Data.Bool.AllAny
import PipelineAdvisor.Report.Listing
import PipelineAdvisor.Proofs.Text.Joining

/-!
The texts of a result, examples apart, and the texts that reports make of them. What a report adds
holds no control characters, so a control character stands in a line only if it stands in a text of
the result.
-/

namespace PipelineAdvisor

def Finding.wording (finding : Finding) : List String :=
  [finding.id, finding.title, finding.currentState, finding.problem, finding.recommendation] ++
    finding.time?.toList ++ finding.affectedJobs

namespace AnalysisResult

def wording (result : AnalysisResult) : List String :=
  result.findings.flatMap Finding.wording ++ result.faults.map Fault.text

def examples (result : AnalysisResult) : List String :=
  result.findings.filterMap (·.example?)

end AnalysisResult

/-! A report adds digits and words of its own to the texts of a result. -/

theorem isAlphanum_of_mem_repr {c : Char} {number : Nat} (inside : c ∈ (Nat.repr number).toList) :
    c.isAlphanum = true := by
  have digit := Nat.isDigit_of_mem_toDigits (by decide) (by decide) (Nat.toList_repr ▸ inside)
  rw [Char.isAlphanum, digit, Bool.or_true]

theorem toNat_of_isAlphanum {c : Char} (plain : c.isAlphanum = true) :
    48 ≤ c.toNat ∧ c.toNat ≤ 122 := by
  -- The three ranges of letters and digits all lie between zero and small z.
  have between : ∀ {low high : UInt32}, low ≤ c.val → c.val ≤ high →
      48 ≤ low.toNat → high.toNat ≤ 122 → 48 ≤ c.toNat ∧ c.toNat ≤ 122 :=
    fun lower upper least greatest => ⟨Nat.le_trans least (UInt32.le_iff_toNat_le.mp lower),
      Nat.le_trans (UInt32.le_iff_toNat_le.mp upper) greatest⟩
  rcases (Bool.or_eq_true _ _).mp plain with letter | digit
  · rcases (Bool.or_eq_true _ _).mp letter with upper | lower
    · have inRange := of_decide_eq_true upper
      exact between inRange.1 inRange.2 (by decide) (by decide)
    · have inRange := (Bool.and_eq_true _ _).mp lower
      exact between (of_decide_eq_true inRange.1) (of_decide_eq_true inRange.2) (by decide) (by decide)
  · have inRange := (Bool.and_eq_true _ _).mp digit
    exact between (of_decide_eq_true inRange.1) (of_decide_eq_true inRange.2) (by decide) (by decide)

theorem printed_of_isAlphanum {c : Char} (plain : c.isAlphanum = true) : 32 ≤ c.toNat :=
  Nat.le_trans (by decide) (toNat_of_isAlphanum plain).1

theorem isBlank_of_isAlphanum {c : Char} (plain : c.isAlphanum = true) : Text.isBlank c = false := by
  have bounds := toNat_of_isAlphanum plain
  simp only [Text.isBlank, Bool.or_eq_false_iff, Bool.and_eq_false_iff, decide_eq_false_iff_not,
    beq_eq_false_iff_ne]
  omega

theorem Finding.mem_savingsText {finding : Finding} {text : String} {c : Char}
    (told : text ∈ finding.savingsText?) (inside : c ∈ text.toList) :
    32 ≤ c.toNat ∨ ∃ time ∈ finding.time?, c ∈ time.toList := by
  have words : ∀ word ∈ ["~", "% cost", " faster", ", "], ∀ other ∈ word.toList,
      32 ≤ other.toNat :=
    List.forall_mem_flatMap.mp (List.all_iff_forall_prop.mp (by decide))
  simp only [List.forall_mem_cons] at words
  obtain ⟨about, cost, faster, comma, -⟩ := words
  simp only [savingsText?, Option.mem_def, Option.ite_none_left_eq_some] at told
  obtain ⟨-, joined⟩ := told
  obtain rfl := Option.some.inj joined
  rcases mem_of_mem_joined inside with between | ⟨part, known, inPart⟩
  · exact Or.inl (comma c between)
  simp only [List.mem_append, Option.mem_toList, Option.map_eq_some_iff] at known
  rcases known with ⟨percent, -, rfl⟩ | ⟨time, isTime, rfl⟩
  · have shape : s!"~{percent}% cost".toList =
        "~".toList ++ ((Nat.repr percent).toList ++ "% cost".toList) := by
      simp [String.toList_append, toString]
    rw [shape, List.mem_append, List.mem_append] at inPart
    rcases inPart with front | digits | back
    · exact Or.inl (about c front)
    · exact Or.inl (printed_of_isAlphanum (isAlphanum_of_mem_repr digits))
    · exact Or.inl (cost c back)
  · have shape : s!"{time} faster".toList = time.toList ++ " faster".toList := by
      simp [String.toList_append, toString]
    rw [shape, List.mem_append] at inPart
    rcases inPart with inTime | back
    · exact Or.inr ⟨time, isTime, inTime⟩
    · exact Or.inl (faster c back)

namespace AnalysisResult

theorem figures_shape {result : AnalysisResult} {figure : String × String}
    (known : figure ∈ result.figures) :
    figure.1 ∈ ["Total findings", "High priority", "Medium priority", "Low priority",
        "Estimated cost reduction", "Estimated time saved"] ∧
      ∃ number : Nat, ∃ unit ∈ ["", "%", " min"], figure.2 = Nat.repr number ++ unit := by
  simp only [figures, Priority.all, List.map_cons, List.map_nil, List.mem_append, List.mem_cons,
    List.not_mem_nil, or_false] at known
  rcases known with (rfl | rfl | rfl | rfl) | rfl | rfl
  · exact ⟨by simp, result.total, "", by simp, String.append_empty.symm⟩
  · exact ⟨by simp [Priority.label], result.counts.high, "", by simp, String.append_empty.symm⟩
  · exact ⟨by simp [Priority.label], result.counts.medium, "", by simp, String.append_empty.symm⟩
  · exact ⟨by simp [Priority.label], result.counts.low, "", by simp, String.append_empty.symm⟩
  · exact ⟨by simp, result.savings.costPercent, "%", by simp, rfl⟩
  · exact ⟨by simp, result.savings.minutes, " min", by simp, rfl⟩

theorem mem_figures {result : AnalysisResult} {figure : String × String} {c : Char}
    (known : figure ∈ result.figures) (inside : c ∈ figure.1.toList ++ figure.2.toList) :
    c.isAlphanum = true ∨ c = ' ' ∨ c = '%' := by
  have names : ∀ name ∈ ["Total findings", "High priority", "Medium priority", "Low priority",
      "Estimated cost reduction", "Estimated time saved"], ∀ other ∈ name.toList,
      other.isAlphanum = true ∨ other = ' ' ∨ other = '%' :=
    List.forall_mem_flatMap.mp (List.all_iff_forall_prop.mp (by decide))
  have units : ∀ unit ∈ ["", "%", " min"], ∀ other ∈ unit.toList,
      other.isAlphanum = true ∨ other = ' ' ∨ other = '%' :=
    List.forall_mem_flatMap.mp (List.all_iff_forall_prop.mp (by decide))
  obtain ⟨named, number, unit, isUnit, value⟩ := figures_shape known
  rw [value, String.toList_append, List.mem_append, List.mem_append] at inside
  rcases inside with inName | inNumber | inUnit
  · exact names _ named c inName
  · exact Or.inl (isAlphanum_of_mem_repr inNumber)
  · exact units unit isUnit c inUnit

end AnalysisResult

end PipelineAdvisor
