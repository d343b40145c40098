import Mathlib.Data.List.Nodup
import Mathlib.Tactic.Common
import PipelineAdvisor.Yaml.Document

/-!
Keys of mappings and look-ups by them. Reading a document refuses equal keys, so the keys of a mapping
that name something differ from each other, tags included. Keys of other shapes do not matter here:
nothing looks them up.
-/

namespace PipelineAdvisor

theorem bind_eq_ok_iff {ε α β : Type} {first : Except ε α} {next : α → Except ε β} {result : β} :
    (first >>= next) = .ok result ↔ ∃ value, first = .ok value ∧ next value = .ok result := by
  cases first with
  | error error => simp [bind, Except.bind]
  | ok value => simp [bind, Except.bind]

theorem ok_bind {ε α β : Type} (value : α) (next : α → Except ε β) :
    (Except.ok value >>= next) = next value := rfl

theorem toOption_eq_some_iff {ε α : Type} {outcome : Except ε α} {value : α} :
    outcome.toOption = some value ↔ outcome = .ok value := by
  cases outcome with
  | error error => simp [Except.toOption]
  | ok other => simp [Except.toOption]

def Ensures {ε α : Type} (outcome : Except ε α) (post : α → Prop) : Prop :=
  ∀ value, outcome = .ok value → post value

namespace Ensures

variable {ε α β : Type} {post : α → Prop}

theorem ok {value : α} (holds : post value) : Ensures (.ok value : Except ε α) post := by
  rintro _ ⟨⟩
  exact holds

theorem error {error : ε} : Ensures (.error error) post := by
  rintro _ ⟨⟩

theorem bind {first : Except ε β} {next : β → Except ε α} {between : β → Prop}
    (front : Ensures first between) (back : ∀ value, between value → Ensures (next value) post) :
    Ensures (first >>= next) post := by
  intro result returned
  obtain ⟨value, found, rest⟩ := bind_eq_ok_iff.mp returned
  exact back value (front value found) result rest

theorem trivial {first : Except ε α} : Ensures first fun _ => True :=
  fun _ _ => True.intro

end Ensures

namespace Yaml

namespace Node

def isNamed (node : Node) : Bool :=
  node.asString?.isSome

def namedKeys (entries : List (Node × Node)) : List Node :=
  (entries.map (·.1)).filter isNamed

def isScalar : Node → Bool
  | .sequence _ | .mapping _ | .tagged _ _ => false
  | _ => true

/-- In all mappings of a node, those in keys apart, no two named keys are equal. -/
inductive KeysDistinct : Node → Prop where
  | scalar {node : Node} (plain : node.isScalar = true) : KeysDistinct node
  | sequence {items : List Node} (each : ∀ item ∈ items, KeysDistinct item) :
      KeysDistinct (.sequence items)
  | mapping {entries : List (Node × Node)} (names : (namedKeys entries).Nodup)
      (values : ∀ entry ∈ entries, KeysDistinct entry.2) : KeysDistinct (.mapping entries)
  | tagged {tag : String} {content : Node} (inside : KeysDistinct content) :
      KeysDistinct (.tagged tag content)

namespace KeysDistinct

theorem items {items : List Node} (distinct : (Node.sequence items).KeysDistinct) :
    ∀ item ∈ items, item.KeysDistinct := by
  cases distinct with
  | scalar plain => cases plain
  | sequence each => exact each

theorem names {entries : List (Node × Node)} (distinct : (Node.mapping entries).KeysDistinct) :
    (namedKeys entries).Nodup := by
  cases distinct with
  | scalar plain => cases plain
  | mapping names values => exact names

theorem values {entries : List (Node × Node)} (distinct : (Node.mapping entries).KeysDistinct) :
    ∀ entry ∈ entries, entry.2.KeysDistinct := by
  cases distinct with
  | scalar plain => cases plain
  | mapping names values => exact values

theorem content {tag : String} {content : Node} (distinct : (Node.tagged tag content).KeysDistinct) :
    content.KeysDistinct := by
  cases distinct with
  | scalar plain => cases plain
  | tagged inside => exact inside

theorem entries_of_asMapping? {entries : List (Node × Node)} :
    ∀ {node : Node}, node.KeysDistinct → node.asMapping? = some entries →
      (Node.mapping entries).KeysDistinct
  | .mapping own, distinct, found => by
      obtain rfl : own = entries := Option.some.inj found
      exact distinct
  | .tagged _ _, distinct, found => entries_of_asMapping? distinct.content found

end KeysDistinct

theorem same_iff_eq_of_named : ∀ {key other : Node}, key.isNamed = true →
    (key.same other = true ↔ key = other)
  | .string text, other, _ => by
      cases other <;> simp [same]
  | .tagged tag content, other, named => by
      cases other with
      | tagged otherTag otherContent =>
          have inside : content.isNamed = true := named
          simp [same, same_iff_eq_of_named inside]
      | _ => simp [same]

theorem isString_iff {text : String} {node : Node} :
    node.isString text = true ↔ node = .string text := by
  cases node with
  | string other => simp [isString]
  | _ => simp [isString]

@[simp] theorem namedKeys_nil : namedKeys [] = [] := rfl

theorem namedKeys_cons (entry : Node × Node) (rest : List (Node × Node)) :
    namedKeys (entry :: rest) =
      if entry.1.isNamed then entry.1 :: namedKeys rest else namedKeys rest := by
  rw [namedKeys, List.map_cons, List.filter_cons]
  rfl

theorem namedKeys_append (front back : List (Node × Node)) :
    namedKeys (front ++ back) = namedKeys front ++ namedKeys back := by
  rw [namedKeys, List.map_append, List.filter_append]
  rfl

theorem namedKeys_sublist {entries others : List (Node × Node)} (inside : entries.Sublist others) :
    (namedKeys entries).Sublist (namedKeys others) :=
  (inside.map Prod.fst).filter isNamed

theorem namedKeys_perm {entries others : List (Node × Node)} (same : entries.Perm others) :
    (namedKeys entries).Perm (namedKeys others) :=
  (same.map Prod.fst).filter isNamed

theorem mem_namedKeys {key : Node} {entries : List (Node × Node)} :
    key ∈ namedKeys entries ↔ key.isNamed = true ∧ ∃ entry ∈ entries, entry.1 = key := by
  rw [namedKeys, List.mem_filter, List.mem_map, and_comm]

section Lookup

variable {key : String} {entries : List (Node × Node)}

theorem lookup?_append (key : String) (front back : List (Node × Node)) :
    lookup? key (front ++ back) = (lookup? key front).or (lookup? key back) := by
  simp only [lookup?, List.find?_append, Option.map_or]

theorem lookup?_eq_none_iff :
    lookup? key entries = none ↔ ∀ entry ∈ entries, entry.1.isString key = false := by
  simp [lookup?]

theorem lookup?_eq_some_iff (distinct : (namedKeys entries).Nodup) {value : Node} :
    lookup? key entries = some value ↔ (.string key, value) ∈ entries := by
  induction entries with
  | nil => simp [lookup?]
  | cons entry rest ih =>
      obtain ⟨name, content⟩ := entry
      rw [namedKeys_cons] at distinct
      rw [lookup?, List.find?_cons, List.mem_cons]
      cases here : name.isString key with
      | true =>
          obtain rfl := isString_iff.mp here
          have distinct := List.nodup_cons.mp distinct
          have absent : (Node.string key, value) ∉ rest := fun known =>
            distinct.1 (mem_namedKeys.mpr ⟨rfl, _, known, rfl⟩)
          simp [absent, eq_comm]
      | false =>
          have different : name ≠ .string key := fun same => by simp [same, isString] at here
          have others : (namedKeys rest).Nodup := by
            split at distinct
            · exact (List.nodup_cons.mp distinct).2
            · exact distinct
          have later := ih others
          rw [lookup?] at later
          simp [later, different.symm]

theorem lookup?_perm {others : List (Node × Node)} (same : entries.Perm others)
    (distinct : (namedKeys entries).Nodup) : lookup? key entries = lookup? key others := by
  have otherDistinct : (namedKeys others).Nodup :=
    (namedKeys_perm same).nodup_iff.mp distinct
  apply Option.ext
  intro value
  rw [lookup?_eq_some_iff distinct, lookup?_eq_some_iff otherDistinct, same.mem_iff]

theorem lookup?_flatten (key : String) (lists : List (List (Node × Node))) :
    lookup? key lists.flatten = lists.findSome? (lookup? key) := by
  induction lists with
  | nil => rfl
  | cons list rest ih =>
      rw [List.flatten_cons, lookup?_append, ih, List.findSome?_cons]
      cases lookup? key list <;> rfl

end Lookup

theorem KeysDistinct.concat {entries : List (Node × Node)}
    (distinct : (Node.mapping entries).KeysDistinct) {entry : Node × Node}
    (absent : ∀ present ∈ entries, present.1.same entry.1 = false)
    (value : entry.2.KeysDistinct) : (Node.mapping (entries ++ [entry])).KeysDistinct := by
  apply KeysDistinct.mapping
  · rw [namedKeys_append, namedKeys_cons, namedKeys_nil]
    split
    next named =>
      have fresh : entry.1 ∉ namedKeys entries := by
        intro inside
        obtain ⟨_, present, known, same⟩ := mem_namedKeys.mp inside
        have equal : present.1.same entry.1 = true :=
          (same_iff_eq_of_named (same ▸ named)).mpr same
        rw [absent present known] at equal
        exact Bool.noConfusion equal
      have unique := List.Nodup.concat fresh distinct.names
      rwa [List.concat_eq_append] at unique
    next => simpa using distinct.names
  · intro other known
    rcases List.mem_append.mp known with before | last
    · exact distinct.values other before
    · rw [List.mem_singleton.mp last]
      exact value

end Node

open Node

theorem Scalar.integerReading?_isScalar {text : List Char} {node : Node}
    (read : integerReading? text = some (.value node)) : node.isScalar = true := by
  simp only [integerReading?] at read
  split at read
  · split at read
    · obtain rfl := Reading.value.inj (Option.some.inj read)
      rfl
    · split at read <;> simp at read
  · simp at read

theorem Scalar.resolve_isScalar {text : String} {node : Node} (read : resolve text = .value node) :
    node.isScalar = true := by
  simp only [resolve] at read
  split at read
  · obtain rfl := Reading.value.inj read
    rfl
  split at read
  · obtain rfl := Reading.value.inj read
    rfl
  split at read
  next reading found =>
    subst read
    exact integerReading?_isScalar found
  split at read
  · obtain rfl := Reading.value.inj read
    rfl
  split at read
  · obtain rfl := Reading.value.inj read
    rfl
  · obtain rfl := Reading.value.inj read
    rfl

namespace DocumentEvents

theorem coreValue?_isScalar {tag : List Char} {text : String} {node : Node}
    (read : coreValue? tag text = some (.ok node)) : node.isScalar = true := by
  -- A value of the wrong kind is an error, so what is read is a value that was found.
  have found : ∀ {core : CoreTag} {value : Option Node},
      some (value.elim (.error (ValueError.badScalar core text)) .ok) = some (Except.ok node) →
        value = some node := by
    intro core value read
    cases value with
    | none => simp at read
    | some value => simpa using read
  simp only [coreValue?] at read
  split at read
  · obtain ⟨value, _, rfl⟩ := Option.map_eq_some_iff.mp (found read)
    rfl
  split at read
  · split at read
    next value whole =>
      obtain rfl : value = node := by simpa using read
      exact Scalar.integerReading?_isScalar whole
    next => simp at read
    next => exact absurd (found read) (by simp)
  split at read
  · obtain ⟨value, _, rfl⟩ := Option.map_eq_some_iff.mp (found read)
    rfl
  split at read
  · have null := found read
    split at null
    · obtain rfl := Option.some.inj null
      rfl
    · cases null
  · cases read

theorem scalarNode_isScalar {tag : Option (List Char)} {text : List Char} {style : ScalarStyle}
    {node : Node} (read : scalarNode tag text style = .ok node) : node.isScalar = true := by
  simp only [scalarNode] at read
  cases tag with
  | none =>
      dsimp only at read
      split at read
      · split at read
        next value resolved =>
          obtain rfl : value = node := by simpa using read
          exact Scalar.resolve_isScalar resolved
        next => simp at read
      · obtain rfl := Except.ok.inj read
        rfl
  | some tag =>
      dsimp only at read
      cases core : coreValue? tag (String.ofList text) with
      | none =>
          rw [core] at read
          obtain rfl := Except.ok.inj read
          rfl
      | some value =>
          rw [core, Option.getD_some] at read
          subst read
          exact coreValue?_isScalar core

variable {document : DocumentEvents} {fuel : Nat}

structure BuildsDistinct (document : DocumentEvents) (fuel : Nat) : Prop where
  node : ∀ context tagged state,
    Ensures (document.build fuel context tagged state) fun built => built.1.KeysDistinct
  items : ∀ context index state,
    Ensures (document.buildItems fuel context index state) fun built =>
      (Node.sequence built.1).KeysDistinct
  entries : ∀ context tagged mark entries state, (Node.mapping entries).KeysDistinct →
    Ensures (document.buildEntries fuel context tagged mark entries state) fun built =>
      (Node.mapping built.1).KeysDistinct

namespace BuildsDistinct

theorem zero : BuildsDistinct document 0 where
  node _ _ _ := by rw [build]; exact Ensures.error
  items _ _ _ := by rw [buildItems]; exact Ensures.error
  entries _ _ _ _ _ _ := by rw [buildEntries]; exact Ensures.error

theorem node_succ (inner : BuildsDistinct document fuel) (context : BuildContext) (tagged : Bool)
    (state : BuildState) : Ensures (document.build (fuel + 1) context tagged state) fun built =>
      built.1.KeysDistinct := by
  -- Whatever node has a tag in force, it is built without the tag first.
  have marked : ∀ name, Ensures (document.build fuel context true state >>= fun built =>
      .ok (Node.tagged name built.1, built.2)) fun built => built.1.KeysDistinct := fun name =>
    (inner.node context true state).bind fun _ distinct => Ensures.ok distinct.tagged
  rw [build]
  refine Ensures.trivial.bind ?_
  rintro ⟨event, mark⟩ _
  cases event with
  | aliasOf anchor =>
      refine Ensures.trivial.bind ?_
      intro there _
      exact (inner.node context false there).bind fun _ distinct => Ensures.ok distinct
  | scalar tag text style =>
      dsimp only
      split
      next name _ => exact marked name
      next =>
        split
        next node read => exact Ensures.ok (KeysDistinct.scalar (scalarNode_isScalar read))
        next => exact Ensures.error
  | sequenceStart tag =>
      dsimp only
      split
      next name _ => exact marked name
      next =>
        split
        next => exact Ensures.error
        next => exact (inner.items _ _ _).bind fun _ distinct => Ensures.ok distinct
  | mappingStart tag =>
      dsimp only
      split
      next name _ => exact marked name
      next =>
        split
        next => exact Ensures.error
        next =>
          have empty : (Node.mapping []).KeysDistinct := KeysDistinct.mapping (by simp) (by simp)
          exact (inner.entries _ _ _ _ _ empty).bind fun _ distinct => Ensures.ok distinct
  | sequenceEnd => exact Ensures.error
  | mappingEnd => exact Ensures.error

theorem items_succ (inner : BuildsDistinct document fuel) (context : BuildContext) (index : Nat)
    (state : BuildState) : Ensures (document.buildItems (fuel + 1) context index state) fun built =>
      (Node.sequence built.1).KeysDistinct := by
  rw [buildItems]
  refine Ensures.trivial.bind ?_
  rintro ⟨event, mark⟩ _
  dsimp only
  split
  next => exact Ensures.ok (KeysDistinct.sequence (by simp))
  next =>
    refine (inner.node _ _ _).bind ?_
    rintro ⟨item, behind⟩ distinct
    refine (inner.items _ _ behind).bind ?_
    rintro ⟨rest, last⟩ others
    apply Ensures.ok
    apply KeysDistinct.sequence
    intro other known
    rcases List.mem_cons.mp known with rfl | later
    · exact distinct
    · exact others.items other later

theorem entries_succ (inner : BuildsDistinct document fuel) (context : BuildContext) (tagged : Bool)
    (mark : Mark) (before : List (Node × Node)) (state : BuildState)
    (distinct : (Node.mapping before).KeysDistinct) :
    Ensures (document.buildEntries (fuel + 1) context tagged mark before state) fun built =>
      (Node.mapping built.1).KeysDistinct := by
  rw [buildEntries]
  refine Ensures.trivial.bind ?_
  rintro ⟨event, place⟩ _
  dsimp only
  split
  next => exact Ensures.ok distinct
  next =>
    refine Ensures.trivial.bind ?_
    rintro ⟨key, behind⟩ _
    dsimp only
    split
    next => exact Ensures.error
    next absent =>
      refine (inner.node _ _ behind).bind ?_
      rintro ⟨value, last⟩ valueDistinct
      apply inner.entries
      apply distinct.concat _ valueDistinct
      intro present known
      simpa using List.find?_eq_none.mp absent present known

theorem of_fuel (document : DocumentEvents) (fuel : Nat) : BuildsDistinct document fuel := by
  induction fuel with
  | zero => exact zero
  | succ fuel inner => exact ⟨inner.node_succ, inner.items_succ, inner.entries_succ⟩

end BuildsDistinct

theorem root_keysDistinct {node : Node}
    (read : document.root = .ok node) : node.KeysDistinct := by
  rw [root, bind_eq_ok_iff] at read
  obtain ⟨⟨built, after⟩, found, read⟩ := read
  dsimp only at read
  split at read
  next => cases read
  next =>
    obtain rfl := Except.ok.inj read
    exact (BuildsDistinct.of_fuel document _).node _ _ _ _ found

end DocumentEvents

/-- A document is read only if no mapping in it has the same named key twice. -/
theorem readNode_keysDistinct {text : String} {node : Node} (read : readNode text = .ok node) :
    node.KeysDistinct := by
  unfold readNode at read
  generalize withoutByteOrderMark text.toList = characters at read
  generalize controlOffset? 0 text.toList = offset at read
  split at read
  next => cases read
  next =>
    extract_lets characters at read
    split at read
    next tokens failure scanned =>
      -- The fuel counts the tokens; it is only a name here, so that nothing runs on it.
      extract_lets reader fuel at read
      clear_value reader fuel
      split at read
      next document ending events =>
        split at read
        next =>
          obtain rfl := Except.ok.inj read
          exact KeysDistinct.scalar rfl
        next => exact DocumentEvents.root_keysDistinct read
        next rest =>
          rw [bind_eq_ok_iff] at read
          obtain ⟨root, found, read⟩ := read
          split at read
          next =>
            obtain rfl := Except.ok.inj read
            exact DocumentEvents.root_keysDistinct found
          next => cases read

end Yaml

end PipelineAdvisor
