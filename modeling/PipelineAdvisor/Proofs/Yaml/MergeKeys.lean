import Mathlib.Data.List.Forall2
import PipelineAdvisor.Proofs.Yaml.Keys

/-!
What merge keys do to a mapping. The first sections take one mapping apart: which entries are there
afterwards and in which order. The last ones say that a document is merged mapping by mapping, each
value like a document of its own, and that named keys stay distinct.
-/

namespace PipelineAdvisor.Yaml.Node

section TakeMember

def lastFirst {α : Type} (list : List α) : List α :=
  match list.getLast? with
  | none => []
  | some last => last :: list.dropLast

@[simp] theorem lastFirst_concat {α : Type} (front : List α) (last : α) :
    lastFirst (front ++ [last]) = last :: front := by
  simp [lastFirst]

theorem lastFirst_perm {α : Type} (list : List α) : (lastFirst list).Perm list := by
  rcases List.eq_nil_or_concat list with rfl | ⟨front, last, rfl⟩
  · exact List.Perm.refl _
  · rw [List.concat_eq_append, lastFirst_concat]
    exact (List.perm_append_singleton last front).symm

theorem takeMember?_eq_none {key : String} {entries : List (Node × Node)}
    (missing : takeMember? key entries = none) : ∀ entry ∈ entries, entry.1.isString key = false := by
  induction entries with
  | nil => simp
  | cons entry rest ih =>
      rw [takeMember?] at missing
      split at missing
      next => cases missing
      next other =>
        intro present known
        rcases List.mem_cons.mp known with rfl | later
        · exact Bool.eq_false_iff.mpr other
        · exact ih (Option.map_eq_none_iff.mp missing) present later

/-- Where an entry was taken out, the last entry behind it comes to stand. -/
theorem takeMember?_eq_some {key : String} {entries rest : List (Node × Node)} {value : Node}
    (taken : takeMember? key entries = some (value, rest)) :
    ∃ front back, entries = front ++ (.string key, value) :: back ∧
      (∀ entry ∈ front, entry.1.isString key = false) ∧ rest = front ++ lastFirst back := by
  induction entries generalizing rest with
  | nil => cases taken
  | cons entry others ih =>
      rw [takeMember?] at taken
      split at taken
      next here =>
        obtain ⟨own, after⟩ := entry
        obtain ⟨rfl, rfl⟩ := Prod.mk.inj (Option.some.inj taken)
        obtain rfl := isString_iff.mp here
        refine ⟨[], others, rfl, by simp, ?_⟩
        rw [List.nil_append, lastFirst]
        cases others.getLast? <;> rfl
      next other =>
        obtain ⟨⟨found, after⟩, later, same⟩ := Option.map_eq_some_iff.mp taken
        obtain ⟨rfl, rfl⟩ := Prod.mk.inj same
        obtain ⟨front, back, rfl, clean, rfl⟩ := ih later
        refine ⟨entry :: front, back, rfl, ?_, rfl⟩
        intro present known
        rcases List.mem_cons.mp known with rfl | inFront
        · exact Bool.eq_false_iff.mpr other
        · exact clean present inFront

end TakeMember

section BroughtIn

def sources : Node → List (List (Node × Node))
  | .mapping entries => [entries]
  | .sequence items => items.filterMap fun item =>
      match item with
      | .mapping entries => some entries
      | _ => none
  | _ => []

theorem broughtIn_eq_flatten {value : Node} {more : List (Node × Node)}
    (brought : broughtIn value = .ok more) : more = (sources value).flatten := by
  have ofItems : ∀ {items : List Node} {more : List (Node × Node)},
      broughtIn.itemEntries items = .ok more → more = (sources (.sequence items)).flatten := by
    intro items
    induction items with
    | nil =>
        intro more brought
        exact (Except.ok.inj brought).symm
    | cons item rest ih =>
        intro more brought
        cases item with
        | mapping entries =>
            rw [broughtIn.itemEntries, bind_eq_ok_iff] at brought
            obtain ⟨others, found, same⟩ := brought
            obtain rfl := Except.ok.inj same
            rw [ih found]
            simp [sources]
        | _ => cases brought
  cases value with
  | mapping entries =>
      obtain rfl := Except.ok.inj brought
      simp [sources]
  | sequence items => exact ofItems brought
  | _ => cases brought

end BroughtIn

section InsertNew

theorem foldl_insertNew_eq_append (more entries : List (Node × Node)) :
    ∃ added, more.foldl insertNew entries = entries ++ added ∧ added.Sublist more := by
  induction more generalizing entries with
  | nil => exact ⟨[], by simp⟩
  | cons entry rest ih =>
      obtain ⟨added, same, inside⟩ := ih (insertNew entries entry)
      rw [List.foldl_cons, same, insertNew]
      split
      next => exact ⟨added, rfl, inside.cons entry⟩
      next => exact ⟨entry :: added, by simp, inside.cons_cons entry⟩

theorem KeysDistinct.insertNew {entries : List (Node × Node)} {entry : Node × Node}
    (distinct : (Node.mapping entries).KeysDistinct) (value : entry.2.KeysDistinct) :
    (Node.mapping (insertNew entries entry)).KeysDistinct := by
  rw [Node.insertNew]
  split
  next => exact distinct
  next absent =>
    apply distinct.concat _ value
    intro present known
    rw [Bool.not_eq_true, List.any_eq_false] at absent
    exact Bool.eq_false_iff.mpr (absent present known)

theorem KeysDistinct.foldl_insertNew {more : List (Node × Node)} {entries : List (Node × Node)}
    (distinct : (Node.mapping entries).KeysDistinct)
    (values : ∀ entry ∈ more, entry.2.KeysDistinct) :
    (Node.mapping (more.foldl Node.insertNew entries)).KeysDistinct := by
  induction more generalizing entries with
  | nil => exact distinct
  | cons entry rest ih =>
      apply ih (distinct.insertNew (values entry List.mem_cons_self))
      exact fun other inRest => values other (List.mem_cons_of_mem entry inRest)

theorem lookup?_insertNew (key : String) (entries : List (Node × Node)) (entry : Node × Node) :
    lookup? key (insertNew entries entry) =
      (lookup? key entries).or (lookup? key [entry]) := by
  rw [insertNew]
  split
  next present =>
    obtain ⟨known, inside, same⟩ := List.any_eq_true.mp present
    cases here : entry.1.isString key with
    | false =>
        have missing : lookup? key [entry] = none := by
          simp [lookup?, here]
        rw [missing, Option.or_none]
    | true =>
        -- An entry that is left out for its key has that key among the others.
        have found : lookup? key entries ≠ none := by
          intro missing
          have other := lookup?_eq_none_iff.mp missing known inside
          rw [isString_iff.mp here] at same
          cases knownKey : known.1 with
          | string text => simp_all [Node.same, isString]
          | _ => simp [knownKey, Node.same] at same
        obtain ⟨value, found⟩ := Option.ne_none_iff_exists'.mp found
        rw [found, Option.some_or]
  next => exact lookup?_append key entries [entry]

/-- Entries that are there already win over those that are brought in, and earlier ones of these over
later ones. -/
theorem lookup?_foldl_insertNew (key : String) (more entries : List (Node × Node)) :
    lookup? key (more.foldl insertNew entries) =
      (lookup? key entries).or (lookup? key more) := by
  induction more generalizing entries with
  | nil => simp [lookup?]
  | cons entry rest ih =>
      rw [List.foldl_cons, ih, lookup?_insertNew, Option.or_assoc,
        ← lookup?_append key [entry] rest, List.singleton_append]

end InsertNew

section MergeEntries

theorem mergeEntries_cases {entries merged : List (Node × Node)}
    (accepted : mergeEntries entries = .ok merged) :
    ((∀ entry ∈ entries, entry.1.isString mergeKey = false) ∧ merged = entries) ∨
      ∃ front value back, entries = front ++ (.string mergeKey, value) :: back ∧
        (∀ entry ∈ front, entry.1.isString mergeKey = false) ∧
          merged = (sources value).flatten.foldl insertNew (front ++ lastFirst back) := by
  rw [mergeEntries] at accepted
  split at accepted
  next missing =>
    obtain rfl := Except.ok.inj accepted
    exact Or.inl ⟨takeMember?_eq_none missing, rfl⟩
  next value rest taken =>
    rw [bind_eq_ok_iff] at accepted
    obtain ⟨more, brought, same⟩ := accepted
    obtain rfl := Except.ok.inj same
    obtain ⟨front, back, rfl, clean, rfl⟩ := takeMember?_eq_some taken
    rw [broughtIn_eq_flatten brought]
    exact Or.inr ⟨front, value, back, rfl, clean, rfl⟩

theorem mem_mergeEntries {entries merged : List (Node × Node)}
    (accepted : mergeEntries entries = .ok merged) {entry : Node × Node} (known : entry ∈ merged) :
    entry ∈ entries ∨ ∃ value, (.string mergeKey, value) ∈ entries ∧
      ∃ source ∈ sources value, entry ∈ source := by
  rcases mergeEntries_cases accepted with ⟨_, rfl⟩ | ⟨front, value, back, rfl, _, rfl⟩
  · exact Or.inl known
  · obtain ⟨added, same, inside⟩ :=
      foldl_insertNew_eq_append (sources value).flatten (front ++ lastFirst back)
    rw [same, List.mem_append, List.mem_append, (lastFirst_perm back).mem_iff] at known
    rcases known with (inFront | inBack) | inAdded
    · exact Or.inl (by simp [inFront])
    · exact Or.inl (by simp [inBack])
    · exact Or.inr ⟨value, by simp, List.mem_flatten.mp (inside.subset inAdded)⟩

theorem KeysDistinct.source {value : Node} (distinct : value.KeysDistinct)
    {source : List (Node × Node)} (known : source ∈ sources value) :
    (Node.mapping source).KeysDistinct := by
  cases value with
  | mapping entries =>
      obtain rfl := List.mem_singleton.mp known
      exact distinct
  | sequence items =>
      obtain ⟨item, inItems, same⟩ := List.mem_filterMap.mp known
      cases item with
      | mapping entries =>
          obtain rfl := Option.some.inj same
          exact distinct.items _ inItems
      | _ => cases same
  | _ => cases known

theorem KeysDistinct.mergeEntries {entries merged : List (Node × Node)}
    (distinct : (Node.mapping entries).KeysDistinct)
    (accepted : mergeEntries entries = .ok merged) : (Node.mapping merged).KeysDistinct := by
  rcases mergeEntries_cases accepted with ⟨_, rfl⟩ | ⟨front, value, back, rfl, _, rfl⟩
  · exact distinct
  · have remaining : (Node.mapping (front ++ lastFirst back)).KeysDistinct := by
      apply KeysDistinct.mapping
      · have less : (namedKeys (front ++ back)).Nodup :=
          distinct.names.sublist (namedKeys_sublist ((List.Sublist.refl front).append (by simp)))
        exact (namedKeys_perm ((lastFirst_perm back).append_left front)).nodup_iff.mpr less
      · intro entry known
        apply distinct.values entry
        rw [List.mem_append, (lastFirst_perm back).mem_iff] at known
        rcases known with inFront | inBack
        · simp [inFront]
        · simp [inBack]
    apply remaining.foldl_insertNew
    intro entry known
    obtain ⟨source, named, inSource⟩ := List.mem_flatten.mp known
    exact ((distinct.values (.string mergeKey, value) (by simp)).source named).values entry inSource

end MergeEntries

end PipelineAdvisor.Yaml.Node
