import Mathlib.Data.List.Sort

/-!
Stable sorting by a total preorder. Two elements tie when each may stand before the other; a sorted
list is determined by the order in which it holds the elements of each tie, and a stable sort keeps
that order.
-/

namespace PipelineAdvisor.StableSort

variable {α : Type}

def tied (le : α → α → Bool) (first second : α) : Bool :=
  le first second && le second first

/-- Both lists hold the elements of every tie in the same order. -/
def SameTies (le : α → α → Bool) (left right : List α) : Prop :=
  ∀ element, left.filter (tied le element) = right.filter (tied le element)

structure TotalPreorder (le : α → α → Bool) : Prop where
  trans : ∀ first second third, le first second → le second third → le first third
  total : ∀ first second, le first second || le second first

theorem tied_trans {le : α → α → Bool} (order : TotalPreorder le) {element first second : α}
    (firstTied : tied le element first = true) (secondTied : tied le element second = true) :
    tied le first second = true := by
  simp only [tied, Bool.and_eq_true] at firstTied secondTied ⊢
  exact ⟨order.trans _ _ _ firstTied.2 secondTied.1, order.trans _ _ _ secondTied.2 firstTied.1⟩

namespace SameTies

variable {le : α → α → Bool} {left right : List α}

theorem refl (list : List α) : SameTies le list list :=
  fun _ => rfl

theorem symm (same : SameTies le left right) : SameTies le right left :=
  fun element => (same element).symm

theorem trans {middle : List α} (first : SameTies le left middle)
    (second : SameTies le middle right) : SameTies le left right :=
  fun element => (first element).trans (second element)

theorem append {left' right' : List α} (front : SameTies le left right)
    (back : SameTies le left' right') : SameTies le (left ++ left') (right ++ right') := by
  intro element
  rw [List.filter_append, List.filter_append, front element, back element]

theorem filter (same : SameTies le left right) (keep : α → Bool) :
    SameTies le (left.filter keep) (right.filter keep) := by
  intro element
  have selected := congrArg (List.filter keep) (same element)
  simpa only [List.filter_filter, Bool.and_comm] using selected

theorem mem_iff (order : TotalPreorder le) (same : SameTies le left right) (element : α) :
    element ∈ left ↔ element ∈ right := by
  have self : tied le element element = true := by
    simpa [tied] using order.total element element
  have selected := congrArg (element ∈ ·) (same element)
  simpa [List.mem_filter, self] using selected

theorem swap (order : TotalPreorder le)
    (apart : ∀ first ∈ left, ∀ second ∈ right, tied le first second = false) :
    SameTies le (left ++ right) (right ++ left) := by
  intro element
  rw [List.filter_append, List.filter_append]
  cases inLeft : left.filter (tied le element) with
  | nil => simp
  | cons first rest =>
      have firstTied : first ∈ left ∧ tied le element first = true :=
        List.mem_filter.mp (inLeft ▸ List.mem_cons_self)
      have noneRight : right.filter (tied le element) = [] := by
        rw [List.filter_eq_nil_iff]
        intro second member secondTied
        have separate := apart first firstTied.1 second member
        rw [tied_trans order firstTied.2 secondTied] at separate
        contradiction
      simp [noneRight]

theorem flatMap_append {β : Type} (order : TotalPreorder le) (parts : List β)
    (front back : β → List α)
    (apart : ∀ part ∈ parts, ∀ other ∈ parts, ∀ first ∈ back part, ∀ second ∈ front other,
      tied le first second = false) :
    SameTies le (parts.flatMap fun part => front part ++ back part)
      (parts.flatMap front ++ parts.flatMap back) := by
  induction parts with
  | nil => exact refl _
  | cons part rest ih =>
      have restSame := ih fun one inRest other inRest' =>
        apart one (List.mem_cons_of_mem _ inRest) other (List.mem_cons_of_mem _ inRest')
      have moved : SameTies le (back part ++ rest.flatMap front)
          (rest.flatMap front ++ back part) := by
        apply swap order
        intro first inBack second inFront
        obtain ⟨other, inRest, inFront⟩ := List.mem_flatMap.mp inFront
        exact apart part (by simp) other (List.mem_cons_of_mem _ inRest) first inBack second inFront
      have follow : SameTies le (back part ++ rest.flatMap fun other => front other ++ back other)
          (rest.flatMap front ++ (back part ++ rest.flatMap back)) :=
        ((refl (back part)).append restSame).trans
          (by simpa [List.append_assoc] using moved.append (refl (rest.flatMap back)))
      have joined := SameTies.append (refl (front part)) follow
      simpa [List.flatMap_cons, List.append_assoc] using joined

theorem filter_tied_flatMap {β : Type} (order : TotalPreorder le) {content : β → List α}
    {mayTie : β → β → Bool}
    (apart : ∀ part other, mayTie part other = false → ∀ first ∈ content part,
      ∀ second ∈ content other, tied le first second = false)
    {element first : α} {part : β} (inPart : first ∈ content part)
    (firstTied : tied le element first = true) (list : List β) :
    (list.flatMap content).filter (tied le element) =
      ((list.filter (mayTie part)).flatMap content).filter (tied le element) := by
  induction list with
  | nil => rfl
  | cons other rest ih =>
      rw [List.flatMap_cons, List.filter_append, ih, List.filter_cons]
      split
      · rw [List.flatMap_cons, List.filter_append]
      · rename_i never
        have none : (content other).filter (tied le element) = [] := by
          rw [List.filter_eq_nil_iff]
          intro second inOther secondTied
          have separate := apart part other (by simpa using never) first inPart second inOther
          rw [tied_trans order firstTied secondTied] at separate
          contradiction
        rw [none, List.nil_append]

/-- Parts may be reordered if parts between which ties are possible keep their order. -/
theorem flatMap_reorder {β : Type} (order : TotalPreorder le) (parts parts' : List β)
    (content : β → List α) (mayTie : β → β → Bool)
    (apart : ∀ part other, mayTie part other = false → ∀ first ∈ content part,
      ∀ second ∈ content other, tied le first second = false)
    (reordered : ∀ part, part ∈ parts ∨ part ∈ parts' →
      parts.filter (mayTie part) = parts'.filter (mayTie part)) :
    SameTies le (parts.flatMap content) (parts'.flatMap content) := by
  intro element
  by_cases found : ∃ part, (part ∈ parts ∨ part ∈ parts') ∧
      ∃ first ∈ content part, tied le element first = true
  · obtain ⟨part, known, first, inPart, firstTied⟩ := found
    rw [filter_tied_flatMap order apart inPart firstTied parts,
      filter_tied_flatMap order apart inPart firstTied parts', reordered part known]
  · have none {list : List β} (among : ∀ part ∈ list, part ∈ parts ∨ part ∈ parts') :
        (list.flatMap content).filter (tied le element) = [] := by
      rw [List.filter_eq_nil_iff]
      intro first member firstTied
      obtain ⟨part, inList, inPart⟩ := List.mem_flatMap.mp member
      exact found ⟨part, among part inList, first, inPart, firstTied⟩
    rw [none fun _ => Or.inl, none fun _ => Or.inr]

end SameTies

section

variable {le : α → α → Bool} (order : TotalPreorder le)
include order

theorem eq_of_sameTies {left right : List α} (same : SameTies le left right)
    (leftSorted : left.Pairwise fun first second => le first second)
    (rightSorted : right.Pairwise fun first second => le first second) : left = right := by
  induction left generalizing right with
  | nil =>
      cases right with
      | nil => rfl
      | cons head rest => simpa using (same.mem_iff order head).mpr (by simp)
  | cons first left ih =>
      cases right with
      | nil => simpa using (same.mem_iff order first).mp (by simp)
      | cons second right =>
          rw [List.pairwise_cons] at leftSorted rightSorted
          have firstSelf : le first first = true := by simpa using order.total first first
          have secondSelf : le second second = true := by simpa using order.total second second
          have forward : le first second = true := by
            rcases List.mem_cons.mp ((same.mem_iff order second).mpr (by simp)) with equal | later
            · exact equal ▸ firstSelf
            · exact leftSorted.1 second later
          have backward : le second first = true := by
            rcases List.mem_cons.mp ((same.mem_iff order first).mp (by simp)) with equal | later
            · exact equal ▸ secondSelf
            · exact rightSorted.1 first later
          have heads := same first
          simp only [List.filter_cons, tied, firstSelf, forward, backward, Bool.and_self,
            if_true, List.cons.injEq] at heads
          have equal : first = second := heads.1
          subst second
          have restSame : SameTies le left right := by
            intro element
            have whole := same element
            simp only [List.filter_cons] at whole
            split at whole
            · exact (List.cons.inj whole).2
            · exact whole
          rw [ih restSame leftSorted.2 rightSorted.2]

theorem mergeSort_sorted (list : List α) :
    (list.mergeSort le).Pairwise fun first second => le first second :=
  List.pairwise_mergeSort order.trans order.total list

theorem mergeSort_sameTies (list : List α) : SameTies le (list.mergeSort le) list := by
  intro element
  have allTied : (list.filter (tied le element)).Pairwise fun first second => le first second := by
    apply List.pairwise_of_forall_mem_list
    intro first inFirst second inSecond
    simp only [List.mem_filter, tied, Bool.and_eq_true] at inFirst inSecond
    exact order.trans _ _ _ inFirst.2.2 inSecond.2.1
  have kept := (List.sublist_mergeSort order.trans order.total allTied List.filter_sublist).filter
    (tied le element)
  simp only [List.filter_filter, Bool.and_self] at kept
  refine (kept.eq_of_length ?_).symm
  exact ((List.mergeSort_perm list le).filter _).length_eq.symm

/-- A list is the sorted form of another one exactly if it is sorted and has the same ties. -/
theorem eq_mergeSort_iff (list sorted : List α) :
    sorted = list.mergeSort le ↔
      (sorted.Pairwise fun first second => le first second) ∧ SameTies le sorted list := by
  constructor
  · rintro rfl
    exact ⟨mergeSort_sorted order list, mergeSort_sameTies order list⟩
  · rintro ⟨pairs, same⟩
    exact eq_of_sameTies order (same.trans (mergeSort_sameTies order list).symm) pairs
      (mergeSort_sorted order list)

theorem mergeSort_congr {left right : List α} (same : SameTies le left right) :
    left.mergeSort le = right.mergeSort le := by
  rw [eq_mergeSort_iff order]
  exact ⟨mergeSort_sorted order left, (mergeSort_sameTies order left).trans same⟩

theorem mergeSort_filter (keep : α → Bool) (list : List α) :
    (list.filter keep).mergeSort le = (list.mergeSort le).filter keep := by
  symm
  rw [eq_mergeSort_iff order]
  exact ⟨(mergeSort_sorted order list).filter keep, (mergeSort_sameTies order list).filter keep⟩

theorem mergeSort_append {left right : List α}
    (before : ∀ first ∈ left, ∀ second ∈ right, le first second = true) :
    (left ++ right).mergeSort le = left.mergeSort le ++ right.mergeSort le := by
  symm
  rw [eq_mergeSort_iff order]
  constructor
  · rw [List.pairwise_append]
    refine ⟨mergeSort_sorted order left, mergeSort_sorted order right, ?_⟩
    intro first inLeft second inRight
    exact before first (List.mem_mergeSort.mp inLeft) second (List.mem_mergeSort.mp inRight)
  · exact (mergeSort_sameTies order left).append (mergeSort_sameTies order right)

theorem mergeSort_flatMap {β : Type} (parts : List β) (content : β → List α)
    (ordered : parts.Pairwise fun part other => ∀ first ∈ content part, ∀ second ∈ content other,
      le first second = true) :
    (parts.flatMap content).mergeSort le = parts.flatMap fun part => (content part).mergeSort le := by
  induction parts with
  | nil => simp
  | cons part rest ih =>
      rw [List.pairwise_cons] at ordered
      rw [List.flatMap_cons, List.flatMap_cons, ← ih ordered.2]
      apply mergeSort_append order
      intro first inPart second inRest
      obtain ⟨other, inRest, inOther⟩ := List.mem_flatMap.mp inRest
      exact ordered.1 other inRest first inPart second inOther

end

end PipelineAdvisor.StableSort
