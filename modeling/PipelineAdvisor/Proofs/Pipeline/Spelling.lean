import PipelineAdvisor.Proofs.Pipeline.StepPieces
import PipelineAdvisor.Proofs.Yaml.Places

/-!
Steps with two spellings: a command or a cache key may be written short or in full. Both spellings do
the same, and their texts differ in a key that only the full one has; so whoever does not look for
such a key finds the same in both.
-/

namespace PipelineAdvisor

open Text (SplitsAt PartsAt)
open Yaml (Node)
open Yaml.Node (DiffersAt Hop)

namespace Json

/-- The keys that stand in one spelling of a step only. -/
def spellingKeys : List String :=
  ["command", "key", "keys"]

def isTelling (piece : List Char) : Bool :=
  spellingKeys.all fun key => key.toList != piece

theorem key_of_not_telling {piece : List Char} (untelling : isTelling piece = false) :
    ∃ key ∈ spellingKeys, key.toList = piece := by
  obtain ⟨key, known, isPiece⟩ := List.all_eq_false.mp untelling
  exact ⟨key, known, by simpa using isPiece⟩

theorem findSome?_telling {α : Type} {find : List Char → Option α}
    (blind : ∀ key ∈ spellingKeys, find key.toList = none) (pieces : List (List Char)) :
    (pieces.filter isTelling).findSome? find = pieces.findSome? find := by
  induction pieces with
  | nil => rfl
  | cons piece rest ih =>
      rw [List.filter_cons, Text.findSome?_cons_or]
      cases telling : isTelling piece with
      | true => rw [if_pos rfl, Text.findSome?_cons_or, ih]
      | false =>
          obtain ⟨key, known, rfl⟩ := key_of_not_telling telling
          rw [if_neg Bool.false_ne_true, ih, blind key known, Option.none_or]

theorem any_telling {test : List Char → Bool}
    (blind : ∀ key ∈ spellingKeys, test key.toList = false) (pieces : List (List Char)) :
    (pieces.filter isTelling).any test = pieces.any test := by
  rw [List.any_filter]
  congr 1
  funext piece
  cases telling : isTelling piece with
  | true => rfl
  | false =>
      obtain ⟨key, known, rfl⟩ := key_of_not_telling telling
      rw [blind key known, Bool.and_false]

end Json

namespace Yaml.Node

/-- A step in the short spelling and in the full one. -/
inductive StepSpelling : Node → Node → Prop
  | run (command : String) :
      StepSpelling (.mapping [(.string "run", .string command)])
        (.mapping [(.string "run", .mapping [(.string "command", .string command)])])
  | restoreCache (key : String) :
      StepSpelling (.mapping [(.string "restore_cache", .mapping [(.string "key", .string key)])])
        (.mapping [(.string "restore_cache", .mapping [(.string "keys", .sequence [.string key])])])

def tellings? (node : Node) : Option (List (List Char)) :=
  node.image?.map fun image => image.pieces.filter Json.isTelling

def itemTellings? (items : List Node) : Option (List (List Char)) :=
  (imageItems? items).map fun images => (Json.itemPieces images).filter Json.isTelling

def entryTellings? (entries : List (Node × Node)) : Option (List (List Char)) :=
  (imageMembers? entries).map fun members => (Json.memberPieces members).filter Json.isTelling

theorem tellings?_sequence (items : List Node) :
    (Node.sequence items).tellings? = itemTellings? items := by
  rw [tellings?, image?, Option.map_map]
  rfl

theorem tellings?_mapping (entries : List (Node × Node)) :
    (Node.mapping entries).tellings? = entryTellings? entries := by
  rw [tellings?, image?, Option.map_map]
  rfl

theorem tellings?_tagged (tag : String) (content : Node) :
    (Node.tagged tag content).tellings? = content.tellings?.map fun own =>
      (Json.stretches ("!" ++ tag).toList).filter Json.isTelling ++ own := by
  rw [tellings?, image?, tellings?]
  cases image? content <;> simp [Json.pieces, Json.memberPieces]

theorem itemTellings?_cons (item : Node) (rest : List Node) :
    itemTellings? (item :: rest) = item.tellings?.bind fun own =>
      (itemTellings? rest).map fun others => own ++ others := by
  rw [itemTellings?, imageItems?, tellings?, itemTellings?]
  cases image? item <;> cases imageItems? rest <;> simp [Json.itemPieces]

theorem entryTellings?_cons (key value : Node) (rest : List (Node × Node)) :
    entryTellings? ((key, value) :: rest) = (memberName? key).bind fun name =>
      value.tellings?.bind fun own => (entryTellings? rest).map fun others =>
        (Json.stretches name.toList).filter Json.isTelling ++ (own ++ others) := by
  rw [entryTellings?, imageMembers?, tellings?, entryTellings?]
  cases memberName? key <;> cases image? value <;> cases imageMembers? rest <;>
    simp [Json.memberPieces]

theorem tellings?_item (item : Node) : (Node.sequence [item]).tellings? = item.tellings? := by
  have none : itemTellings? [] = some [] := rfl
  rw [tellings?_sequence, itemTellings?_cons, none]
  cases item.tellings? <;> simp

theorem tellings?_entry (name : String) (value : Node) :
    (Node.mapping [(.string name, value)]).tellings? = value.tellings?.map fun own =>
      (Json.stretches name.toList).filter Json.isTelling ++ own := by
  have none : entryTellings? [] = some [] := rfl
  rw [tellings?_mapping, entryTellings?_cons, none, memberName?]
  cases value.tellings? <;> simp

theorem tellings?_spellingKey {key : String} (known : key ∈ Json.spellingKeys) (value : Node) :
    (Node.mapping [(.string key, value)]).tellings? = value.tellings? := by
  have untold : ∀ key ∈ Json.spellingKeys,
      (Json.stretches key.toList).filter Json.isTelling = [] := by
    decide +kernel
  rw [tellings?_entry, untold key known]
  cases value.tellings? <;> rfl

theorem DiffersAt.tellings?_eq {change : Node → Node → Prop}
    (kept : ∀ node other, change node other → node.tellings? = other.tellings?)
    {path : List Hop} {node other : Node} (differs : DiffersAt change path node other) :
    node.tellings? = other.tellings? := by
  induction differs with
  | here changed => exact kept _ _ changed
  | content _ ih => rw [tellings?_tagged, tellings?_tagged, ih]
  | @member path allowed key value other front back _ _ ih =>
      rw [tellings?_mapping, tellings?_mapping]
      induction front with
      | nil => rw [List.nil_append, List.nil_append, entryTellings?_cons, entryTellings?_cons, ih]
      | cons entry rest restIh =>
          rw [List.cons_append, List.cons_append, entryTellings?_cons, entryTellings?_cons, restIh]
  | @item path value other front back _ ih =>
      rw [tellings?_sequence, tellings?_sequence]
      induction front with
      | nil => rw [List.nil_append, List.nil_append, itemTellings?_cons, itemTellings?_cons, ih]
      | cons item rest restIh =>
          rw [List.cons_append, List.cons_append, itemTellings?_cons, itemTellings?_cons, restIh]

namespace StepSpelling

variable {node other : Node}

theorem tellings?_eq (spelling : StepSpelling node other) : node.tellings? = other.tellings? := by
  cases spelling with
  | run command =>
      have command : "command" ∈ Json.spellingKeys := by decide
      rw [tellings?_entry "run", tellings?_entry "run", tellings?_spellingKey command]
  | restoreCache text =>
      have key : "key" ∈ Json.spellingKeys := by decide
      have keys : "keys" ∈ Json.spellingKeys := by decide
      rw [tellings?_entry "restore_cache", tellings?_entry "restore_cache",
        tellings?_spellingKey key, tellings?_spellingKey keys, tellings?_item]

theorem image?_isSome (spelling : StepSpelling node other) : node.image?.isSome = true := by
  cases spelling <;> rfl

theorem bare_isScalar (spelling : StepSpelling node other) :
    node.bare.isScalar = false ∧ other.bare.isScalar = false := by
  cases spelling <;> exact ⟨rfl, rfl⟩

end StepSpelling

theorem DiffersAt.read_get? {β : Type} (read : Option Node → β) {path : List Hop} {node other : Node}
    (blind : ∀ path node other, DiffersAt StepSpelling path node other →
      read (some node) = read (some other))
    (differs : DiffersAt StepSpelling path node other) (name : String)
    (unspelled : name ≠ "run" ∧ name ≠ "restore_cache") :
    read (node.get? name) = read (other.get? name) := by
  induction differs with
  | here spelling =>
      cases spelling with
      | run command => simp [Node.get?, Node.asMapping?, bare, lookup?, isString, unspelled.1.symm]
      | restoreCache key => simp [Node.get?, Node.asMapping?, bare, lookup?, isString, unspelled.2.symm]
  | content _ ih => exact ih
  | @member path allowed key value other front back _ inside _ =>
      have found : ∀ entries, (Node.mapping entries).get? name = lookup? name entries :=
        fun _ => rfl
      rw [found, found]
      rcases lookup?_replaced name front back key value other with same | ⟨_, here, there⟩
      · rw [same]
      · rw [here, there]
        exact blind _ _ _ inside
  | item _ _ => rfl

end Yaml.Node

open Yaml.Node (StepSpelling)

section Scalars

variable {path : List Hop} {node other : Node}

theorem collection_reads_none {node : Node} (collection : node.bare.isScalar = false) :
    node.asString? = none ∧ node.asBool? = none := by
  rw [Node.asString?, Node.asBool?]
  cases shape : node.bare with
  | string _ | bool _ =>
      rw [shape] at collection
      cases collection
  | _ => exact ⟨rfl, rfl⟩

theorem scalars_of_differs (differs : DiffersAt StepSpelling path node other) :
    node.asString? = other.asString? ∧ node.asBool? = other.asBool? := by
  obtain ⟨here, there⟩ := differs.bare_isScalar fun _ _ => StepSpelling.bare_isScalar
  obtain ⟨noText, noFlag⟩ := collection_reads_none here
  obtain ⟨otherNoText, otherNoFlag⟩ := collection_reads_none there
  exact ⟨noText.trans otherNoText.symm, noFlag.trans otherNoFlag.symm⟩

theorem text_of_differs (differs : DiffersAt StepSpelling path node other) (name : String)
    (unspelled : name ≠ "run" ∧ name ≠ "restore_cache") :
    (node.get? name).bind Node.asString? = (other.get? name).bind Node.asString? :=
  differs.read_get? (fun value => value.bind Node.asString?)
    (fun _ _ _ inside => (scalars_of_differs inside).1) name unspelled

theorem flag_of_differs (differs : DiffersAt StepSpelling path node other) (name : String)
    (unspelled : name ≠ "run" ∧ name ≠ "restore_cache") :
    (node.get? name).bind Node.asBool? = (other.get? name).bind Node.asBool? :=
  differs.read_get? (fun value => value.bind Node.asBool?)
    (fun _ _ _ inside => (scalars_of_differs inside).2) name unspelled

end Scalars

theorem stringList_of_differs {path : List Hop} {node other : Node}
    (differs : DiffersAt StepSpelling path node other) :
    stringList (some node) = stringList (some other) := by
  cases differs with
  | here spelling => cases spelling <;> rfl
  | content _ => rfl
  | member _ _ => rfl
  | item inside =>
      simp only [stringList, List.filterMap_append, List.filterMap_cons, (scalars_of_differs inside).1]

namespace StepKind

variable {path : List Hop} {node other : Node}

theorem ofRun_of_differs (differs : DiffersAt StepSpelling path node other) :
    ofRun node = ofRun other := by
  have name := text_of_differs differs "name" (by decide)
  have command := text_of_differs differs "command" (by decide)
  cases differs with
  | here spelling => cases spelling <;> rfl
  | content _ => rfl
  | member _ _ => rw [ofRun, ofRun, name, command]
  | item _ => rfl

theorem cacheKeys_of_differs (differs : DiffersAt StepSpelling path node other) :
    cacheKeys node = cacheKeys other := by
  have keys : stringList (node.get? "keys") = stringList (other.get? "keys") :=
    differs.read_get? stringList (fun _ _ _ inside => stringList_of_differs inside) "keys"
      (by decide)
  rw [cacheKeys, cacheKeys, text_of_differs differs "key" (by decide), keys]

theorem ofEntry_of_differs (differs : DiffersAt StepSpelling path node other) (name : String) :
    ofEntry name node = ofEntry name other := by
  rw [ofEntry, ofEntry, ofRun_of_differs differs, cacheKeys_of_differs differs,
    flag_of_differs differs "docker_layer_caching" (by decide)]

/-- A step does the same whatever the spellings of it and of the steps inside it. -/
theorem ofNode_of_differs (differs : DiffersAt StepSpelling path node other) :
    ofNode node = ofNode other := by
  have types := text_of_differs differs "type" (by decide)
  cases differs with
  | here spelling => cases spelling <;> rfl
  | content _ => rfl
  | item _ => rfl
  | @member _ _ key value otherValue front back _ inside =>
      have found : ∀ entries, (Node.mapping entries).get? "type" = Node.lookup? "type" entries :=
        fun _ => rfl
      rw [found, found] at types
      dsimp only [ofNode]
      rw [types]
      cases front with
      | nil =>
          cases back with
          | nil => simp only [List.nil_append, ofEntry_of_differs inside]
          | cons _ _ => rfl
      | cons _ rest => cases rest <;> rfl

end StepKind

namespace Step

/-- What the checks see of a step: what it does, and the telling pieces of its text. -/
def outline (step : Step) : StepKind × List (List Char) :=
  (step.kind, step.pieces.filter Json.isTelling)

theorem outline_of_differs {path : List Hop} {node other : Node}
    (differs : DiffersAt StepSpelling path node other) (imaged : node.image?.isSome = true) :
    (Step.mk node).outline = (Step.mk other).outline := by
  have same := differs.tellings?_eq fun _ _ => StepSpelling.tellings?_eq
  obtain ⟨image, imaged⟩ := Option.isSome_iff_exists.mp imaged
  rw [Node.tellings?, Node.tellings?, imaged] at same
  obtain ⟨otherImage, otherImaged, telling⟩ := Option.map_eq_some_iff.mp same.symm
  rw [outline, outline, kind, kind, StepKind.ofNode_of_differs differs, pieces, pieces, imaged,
    otherImaged]
  exact congrArg (Prod.mk _) telling.symm

theorem serialized_find_of_outline {α : Type} {find : List Char → Option α}
    (parts : PartsAt Json.IsMark find) (blind : ∀ key ∈ Json.spellingKeys, find key.toList = none)
    {step other : Step} (same : step.outline = other.outline) :
    find step.serialized = find other.serialized := by
  rw [serialized_find parts, serialized_find parts, ← Json.findSome?_telling blind step.pieces,
    ← Json.findSome?_telling blind other.pieces, (Prod.mk.inj same).2]

theorem serialized_test_of_outline {test : List Char → Bool} (splits : SplitsAt Json.IsMark test)
    (blind : ∀ key ∈ Json.spellingKeys, test key.toList = false) {step other : Step}
    (same : step.outline = other.outline) : test step.serialized = test other.serialized := by
  rw [serialized_test splits, serialized_test splits, ← Json.any_telling blind step.pieces,
    ← Json.any_telling blind other.pieces, (Prod.mk.inj same).2]

end Step

end PipelineAdvisor
