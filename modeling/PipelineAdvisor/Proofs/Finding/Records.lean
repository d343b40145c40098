import PipelineAdvisor.Finding.Decode
import PipelineAdvisor.Finding.Encode
import PipelineAdvisor.Proofs.Json.RoundTrip

/-!
Records as data. The members of an object are read in the order of their names, whatever the order
they were written in: each one adds its own field to the draft, so that after all of them the draft
holds the record.
-/

namespace PipelineAdvisor.Json

theorem member?_cons (first : String × Json) (others : List (String × Json)) (name : String) :
    (object (first :: others)).member? name =
      ((object others).member? name).or (if first.1 == name then some first.2 else none) := by
  rw [member?, member?, List.reverse_cons, List.find?_append, List.find?_singleton]
  cases others.reverse.find? fun member => member.1 == name <;> split <;> rfl

/-- Of the members of one name the one that counts is kept. -/
theorem mem_sortedMembers {members : List (String × Json)} {name : String} {value : Json} :
    (name, value) ∈ sortedMembers members ↔ (object members).member? name = some value := by
  rw [sortedMembers, List.mem_mergeSort]
  induction members generalizing name value with
  | nil => simp [member?]
  | cons first others ih =>
      rw [List.foldr_cons, member?_cons]
      -- a member is passed over just if a later one has its name
      split
      next later =>
        obtain ⟨kept, isKept, same⟩ := List.any_eq_true.mp later
        obtain rfl | differ := eq_or_ne first.1 name
        · rw [ih, ← beq_iff_eq.mp same, ih.mp isKept, Option.some_or]
        · rw [ih, beq_false_of_ne differ, if_neg Bool.false_ne_true, Option.or_none]
      next only =>
        rw [List.mem_cons, ih, Prod.ext_iff]
        obtain rfl | differ := eq_or_ne first.1 name
        · have none : (object others).member? first.1 = none := by
            refine Option.eq_none_iff_forall_ne_some.mpr fun other counts => only ?_
            exact List.any_eq_true.mpr ⟨_, ih.mpr counts, beq_self_eq_true _⟩
          rw [none, Option.none_or, beq_self_eq_true, if_pos rfl]
          simp [eq_comm]
        · rw [beq_false_of_ne differ, if_neg Bool.false_ne_true, Option.or_none]
          exact or_iff_right fun same => differ same.1.symm

theorem mem_of_member? {members : List (String × Json)} {name : String} {value : Json}
    (counts : (object members).member? name = some value) : (name, value) ∈ members := by
  obtain ⟨member, found, rfl⟩ := Option.map_eq_some_iff.mp counts
  have same := List.find?_some found
  rw [beq_iff_eq] at same
  exact same ▸ List.mem_reverse.mp (List.mem_of_find?_eq_some found)

theorem exists_member?_of_mem {members : List (String × Json)} {member : String × Json}
    (known : member ∈ members) : ∃ value, (object members).member? member.1 = some value := by
  rw [← Option.isSome_iff_exists, member?, Option.isSome_map, List.find?_isSome]
  exact ⟨member, List.mem_reverse.mpr known, beq_self_eq_true _⟩

section Record

variable {Draft : Type} {set : Draft → String → Json → Except DecodeError Draft}

def AddsFields (set : Draft → String → Json → Except DecodeError Draft)
    (draft : (String → Bool) → Draft) (members : List (String × Json)) : Prop :=
  ∀ seen, ∀ member ∈ members,
    set (draft seen) member.1 member.2 = .ok (draft fun name => name == member.1 || seen name)

variable (draft : (String → Bool) → Draft)

theorem foldlM_seen {members : List (String × Json)} (adds : AddsFields set draft members)
    (seen : String → Bool) :
    members.foldlM (fun draft (member : String × Json) => set draft member.1 member.2)
        (draft seen) =
      .ok (draft fun name => members.any (name == ·.1) || seen name) := by
  induction members generalizing seen with
  | nil => rfl
  | cons first others ih =>
      rw [List.foldlM_cons, adds seen first List.mem_cons_self]
      have rest := ih (fun seen member known => adds seen member (List.mem_cons_of_mem _ known))
        fun name => name == first.1 || seen name
      refine rest.trans ?_
      -- the names that were seen are the same ones in another order
      congr 2
      funext name
      rw [List.any_cons, ← Bool.or_assoc, Bool.or_comm (others.any _)]

theorem decodeRecord_object {type : String} {fields : List Field} {members : List (String × Json)}
    (adds : AddsFields set draft members) :
    decodeRecord type fields (draft fun _ => false) set (.object members) =
      .ok (draft fun name => members.any (name == ·.1)) := by
  have known : ∀ member ∈ sortedMembers members, member ∈ members :=
    fun _ given => mem_of_member? (mem_sortedMembers.mp given)
  have kept : AddsFields set draft (sortedMembers members) :=
    fun seen member given => adds seen member (known member given)
  refine (foldlM_seen draft kept _).trans ?_
  congr 2
  funext name
  rw [Bool.or_false, Bool.eq_iff_iff, List.any_eq_true, List.any_eq_true]
  constructor
  · rintro ⟨member, given, same⟩
    exact ⟨member, known member given, same⟩
  · rintro ⟨member, given, same⟩
    obtain ⟨value, counts⟩ := exists_member?_of_mem given
    exact ⟨(member.1, value), mem_sortedMembers.mpr counts, same⟩

theorem decodeRecord_finish {α : Type} {type : String} {fields : List Field}
    {members : List (String × Json)} {finish : Draft → Except DecodeError α} {value : α}
    (adds : AddsFields set draft members)
    (complete : (draft fun name => members.any (name == ·.1)) = draft fun _ => true)
    (finished : finish (draft fun _ => true) = .ok value) :
    (decodeRecord type fields (draft fun _ => false) set (.object members) >>= finish) =
      .ok value := by
  rw [decodeRecord_object draft adds, complete]
  exact finished

end Record

/-! ### Values of members -/

theorem decodeNat_ofNat {limit value : Nat} (type : String) (below : value < limit) :
    decodeNat limit type (.ofNat value) = .ok value := by
  have fits : (0 : Int) ≤ value ∧ (value : Int) < limit := by omega
  rw [ofNat, decodeNat, if_pos fits, Int.toNat_natCast]

theorem decodeCount_ofNat {value : Nat} (below : value < 2 ^ 64) :
    decodeCount (.ofNat value) = .ok value :=
  decodeNat_ofNat _ below

theorem decodeList_array {α : Type} {decode : Decoder α} {encode : α → Json} {values : List α}
    (each : ∀ value ∈ values, decode (encode value) = .ok value) :
    decodeList decode (.array (values.map encode)) = .ok values := by
  rw [decodeList]
  induction values with
  | nil => rfl
  | cons value others ih =>
      rw [List.map_cons, List.mapM_cons, each value List.mem_cons_self,
        ih fun value known => each value (List.mem_cons_of_mem _ known)]
      rfl

theorem decodeOption_some {α : Type} {decode : Decoder α} {value : Json} {decoded : α}
    (given : value ≠ .null) (reads : decode value = .ok decoded) :
    decodeOption decode value = .ok (some decoded) := by
  unfold decodeOption
  split
  next => exact absurd rfl given
  next => rw [reads]; rfl

end PipelineAdvisor.Json

namespace PipelineAdvisor

theorem mem_optionalMember {α : Type} {name : String} {encode : α → Json} {value : Option α}
    {member : String × Json} : member ∈ optionalMember name encode value ↔
      ∃ inner, value = some inner ∧ member = (name, encode inner) := by
  cases value <;> simp [optionalMember]

theorem mem_listMember {α : Type} {name : String} {encode : α → Json} {values : List α}
    {member : String × Json} : member ∈ listMember name encode values ↔
      values ≠ [] ∧ member = (name, .array (values.map encode)) := by
  cases values <;> simp [listMember]

/-! A member that is written only if there is something to write is missing just if there is not. -/

theorem any_optionalMember {α : Type} (wanted name : String) (encode : α → Json)
    (value : Option α) : (optionalMember name encode value).any (wanted == ·.1) =
      (wanted == name && value.isSome) := by
  cases value <;> simp [optionalMember]

theorem any_listMember {α : Type} (wanted name : String) (encode : α → Json) (values : List α) :
    (listMember name encode values).any (wanted == ·.1) =
      (wanted == name && decide (values ≠ [])) := by
  cases values <;> simp [listMember]

theorem option_of_isSome {α : Type} (value : Option α) :
    (if value.isSome = true then value else none) = value := by
  cases value <;> rfl

theorem list_of_filled {α : Type} (values : List α) :
    (if values = [] then [] else values) = values := by
  cases values <;> rfl

/-! For each record, `draft` is what has been read of it after the members of some names, and `Fits`
bounds its numbers as the fields of data do. -/

namespace Savings

def Fits (savings : Savings) : Prop :=
  ∀ percent ∈ savings.costPercent, percent < 2 ^ 32

def draft (savings : Savings) (seen : String → Bool) : Savings where
  costPercent := if seen "cost_reduction_percent" then savings.costPercent else none
  time := if seen "time_reduction" then savings.time else none

theorem decode_toJson {savings : Savings} (fits : savings.Fits) :
    decode savings.toJson = .ok savings := by
  refine (Json.decodeRecord_object savings.draft ?_).trans ?_
  · intro seen member known
    simp only [List.mem_append, mem_optionalMember] at known
    rcases known with ⟨percent, given, rfl⟩ | ⟨time, given, rfl⟩
    · have reads : Json.decodeOption (Json.decodeNat (Nat.pow 2 32) "u32") (Json.ofNat percent) =
          .ok (some percent) := Json.decodeOption_some nofun (Json.decodeNat_ofNat _ (fits _ given))
      simp only [reads]
      simp [draft, given]
    · have reads : Json.decodeOption Json.decodeString (.string time) = .ok (some time) := rfl
      simp only [reads]
      simp [draft, given]
  · simp [draft, any_optionalMember, option_of_isSome]

end Savings

namespace Fault

def draft (fault : Fault) (seen : String → Bool) : FaultDraft where
  analyzer := if seen "analyzer" then some fault.analyzer else none
  message := if seen "message" then some fault.message else none

theorem decode_toJson (fault : Fault) : decode fault.toJson = .ok fault := by
  refine Json.decodeRecord_finish fault.draft ?_ ?_ rfl
  · intro seen member known
    simp only [List.mem_cons, List.not_mem_nil, or_false] at known
    rcases known with rfl | rfl <;> simp [draft, Json.decodeString]
  · simp [draft]

end Fault

namespace PriorityCounts

structure Fits (counts : PriorityCounts) : Prop where
  high : counts.high < 2 ^ 64
  medium : counts.medium < 2 ^ 64
  low : counts.low < 2 ^ 64

def draft (counts : PriorityCounts) (seen : String → Bool) : CountsDraft where
  high := if seen "high" then some counts.high else none
  medium := if seen "medium" then some counts.medium else none
  low := if seen "low" then some counts.low else none

theorem decode_toJson {counts : PriorityCounts} (fits : counts.Fits) :
    decode counts.toJson = .ok counts := by
  refine Json.decodeRecord_finish counts.draft ?_ ?_ rfl
  · intro seen member known
    simp only [List.mem_cons, List.not_mem_nil, or_false] at known
    rcases known with rfl | rfl | rfl
    · simp [draft, Json.decodeCount_ofNat fits.high]
    · simp [draft, Json.decodeCount_ofNat fits.medium]
    · simp [draft, Json.decodeCount_ofNat fits.low]
  · simp [draft]

end PriorityCounts

namespace SavingsSummary

structure Fits (savings : SavingsSummary) : Prop where
  costPercent : savings.costPercent < 2 ^ 32
  minutes : savings.minutes < 2 ^ 32

def draft (savings : SavingsSummary) (seen : String → Bool) : SavingsSummaryDraft where
  costPercent := if seen "cost_reduction_percent" then some savings.costPercent else none
  minutes := if seen "time_saved" then some savings.minutes else none

theorem decode_toJson {savings : SavingsSummary} (fits : savings.Fits) :
    decode savings.toJson = .ok savings := by
  refine Json.decodeRecord_finish savings.draft ?_ ?_ rfl
  · have costPercent := Json.decodeNat_ofNat "u32" fits.costPercent
    have minutes := Json.decodeNat_ofNat "u32" fits.minutes
    intro seen member known
    simp only [List.mem_cons, List.not_mem_nil, or_false] at known
    rcases known with rfl | rfl
    · simp only [Nat.pow_eq, costPercent]
      simp [draft]
    · simp only [Nat.pow_eq, minutes]
      simp [draft]
  · simp [draft]

end SavingsSummary

namespace Finding

structure Fits (finding : Finding) : Prop where
  score : finding.score.isFinite = true
  savings : ∀ savings ∈ finding.savings?, savings.Fits

def draft (finding : Finding) (seen : String → Bool) : FindingDraft where
  id := if seen "id" then some finding.id else none
  category := if seen "category" then some finding.category else none
  priority := if seen "priority" then some finding.priority else none
  score := if seen "impact_score" then some finding.score else none
  title := if seen "title" then some finding.title else none
  currentState := if seen "current_state" then some finding.currentState else none
  problem := if seen "problem" then some finding.problem else none
  recommendation := if seen "recommendation" then some finding.recommendation else none
  example? := if seen "example" then finding.example? else none
  savings? := if seen "estimated_savings" then finding.savings? else none
  affectedJobs := if seen "affected_jobs" then finding.affectedJobs else []

theorem decode_category (category : Category) :
    Json.decodeVariant Category.all Category.keyword (.string category.keyword) = .ok category := by
  cases category <;> rfl

theorem decode_priority (priority : Priority) :
    Json.decodeVariant Priority.all Priority.keyword (.string priority.keyword) = .ok priority := by
  cases priority <;> rfl

theorem decode_toJson {finding : Finding} (fits : finding.Fits) :
    decode finding.toJson = .ok finding := by
  refine Json.decodeRecord_finish finding.draft ?_ ?_ rfl
  · intro seen member known
    simp only [List.mem_append, List.mem_cons, List.not_mem_nil, or_false, mem_optionalMember,
      mem_listMember] at known
    rcases known with (((rfl | rfl | rfl | rfl | rfl | rfl | rfl | rfl) | ⟨text, given, rfl⟩) |
      ⟨savings, given, rfl⟩) | ⟨filled, rfl⟩
    · simp [draft, FindingDraft.set, Json.decodeString]
    · simp [draft, FindingDraft.set, decode_category]
    · simp [draft, FindingDraft.set, decode_priority]
    · simp [draft, FindingDraft.set, Json.decodeScore]
    · simp [draft, FindingDraft.set, Json.decodeString]
    · simp [draft, FindingDraft.set, Json.decodeString]
    · simp [draft, FindingDraft.set, Json.decodeString]
    · simp [draft, FindingDraft.set, Json.decodeString]
    · have reads : Json.decodeOption Json.decodeString (.string text) = .ok (some text) := rfl
      simp [draft, FindingDraft.set, reads, given]
    · have reads := Json.decodeOption_some (by simp [Savings.toJson])
        (Savings.decode_toJson (fits.savings savings given))
      simp [draft, FindingDraft.set, reads, given]
    · have reads : Json.decodeList Json.decodeString
          (.array (finding.affectedJobs.map Json.string)) = .ok finding.affectedJobs :=
        Json.decodeList_array fun _ _ => rfl
      simp [draft, FindingDraft.set, reads]
  · simp [draft, any_optionalMember, any_listMember, option_of_isSome, list_of_filled]

end Finding

namespace AnalysisResult

/-- Whether the numbers of a result are such as data can hold: counts of 64 bits, percentages and
minutes of 32, and scores that are finite. -/
structure Fits (result : AnalysisResult) : Prop where
  total : result.total < 2 ^ 64
  counts : result.counts.Fits
  savings : result.savings.Fits
  findings : ∀ finding ∈ result.findings, finding.Fits

def draft (result : AnalysisResult) (seen : String → Bool) : ResultDraft where
  total := if seen "total_findings" then some result.total else none
  counts := if seen "counts" then some result.counts else none
  savings := if seen "estimated_savings" then some result.savings else none
  findings := if seen "findings" then some result.findings else none
  faults := if seen "analyzer_faults" then result.faults else []

theorem decode_toJson {result : AnalysisResult} (fits : result.Fits) :
    decode result.toJson = .ok result := by
  refine Json.decodeRecord_finish result.draft ?_ ?_ rfl
  · intro seen member known
    simp only [List.mem_append, List.mem_cons, List.not_mem_nil, or_false, mem_listMember] at known
    rcases known with (rfl | rfl | rfl | rfl) | ⟨filled, rfl⟩
    · simp [draft, Json.decodeCount_ofNat fits.total]
    · simp [draft, PriorityCounts.decode_toJson fits.counts]
    · simp [draft, SavingsSummary.decode_toJson fits.savings]
    · have reads : Json.decodeList Finding.decode (.array (result.findings.map Finding.toJson)) =
          .ok result.findings :=
        Json.decodeList_array fun finding known =>
          Finding.decode_toJson (fits.findings finding known)
      simp [draft, reads]
    · have reads : Json.decodeList Fault.decode (.array (result.faults.map Fault.toJson)) =
          .ok result.faults := Json.decodeList_array fun fault _ => Fault.decode_toJson fault
      simp [draft, reads]
  · simp [draft, any_listMember, list_of_filled]

end AnalysisResult

end PipelineAdvisor
