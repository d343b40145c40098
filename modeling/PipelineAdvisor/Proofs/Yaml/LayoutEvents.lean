import PipelineAdvisor.Proofs.Yaml.Keys
import PipelineAdvisor.Proofs.Yaml.Layout

/-!
The events of a layout. Only the lexemes of the tokens count; where they stand goes into the marks of
the events, which nothing but errors uses.
-/

namespace PipelineAdvisor.Yaml

namespace Layout

mutual

def events : Layout → List NodeEvent
  | .plain text => [.scalar none text.toList .plain]
  | .literal lines => [.scalar none (Scalar.literalText (lines.map String.toList)) .literal]
  | .mapping key value rest =>
    .mappingStart none :: .scalar none key.toList .plain :: events value ++
      (entryEvents rest ++ [.mappingEnd])
  | .sequence first rest =>
    .sequenceStart none :: events first ++ (itemEvents rest ++ [.sequenceEnd])

def entryEvents : List (String × Layout) → List NodeEvent
  | [] => []
  | (key, value) :: rest => .scalar none key.toList .plain :: events value ++ entryEvents rest

def itemEvents : List Layout → List NodeEvent
  | [] => []
  | item :: rest => events item ++ itemEvents rest

end

end Layout

open DocumentEvents

def Emits (step : EventReader.Step) (events : List NodeEvent) (after : EventReader) : Prop :=
  ∃ marked : List (NodeEvent × Mark), marked.map (·.1) = events ∧
    ∀ ⦃reader : EventReader⦄, reader.next = step → ∀ fuel names (document : DocumentEvents),
      DocumentEvents.read (fuel + events.length) reader names document =
        DocumentEvents.read fuel after names { document with events := document.events ++ marked.toArray }

namespace Emits

theorem trans {step : EventReader.Step} {first second : List NodeEvent} {middle last : EventReader}
    (front : Emits step first middle) (back : Emits middle.next second last) :
    Emits step (first ++ second) last := by
  obtain ⟨before, rfl, leads⟩ := front
  obtain ⟨behind, rfl, goesOn⟩ := back
  refine ⟨before ++ behind, by simp, fun reader next fuel names document => ?_⟩
  rw [List.length_append, Nat.add_comm (before.map (·.1)).length, ← Nat.add_assoc, leads next,
    goesOn rfl]
  simp

variable {mark : Mark} {after : EventReader}

theorem scalar (text : List Char) (style : ScalarStyle) :
    Emits (.ok (.scalar none none text style, mark, after)) [.scalar none text style] after :=
  ⟨[(_, mark)], rfl, fun _ next _ _ _ => by simp [DocumentEvents.read, next, addNode]⟩

theorem sequenceStart : Emits (.ok (.sequenceStart none none, mark, after)) [.sequenceStart none] after :=
  ⟨[(_, mark)], rfl, fun _ next _ _ _ => by simp [DocumentEvents.read, next, addNode]⟩

theorem sequenceEnd : Emits (.ok (.sequenceEnd, mark, after)) [.sequenceEnd] after :=
  ⟨[(_, mark)], rfl, fun _ next _ _ _ => by simp [DocumentEvents.read, next, addNode]⟩

theorem mappingStart : Emits (.ok (.mappingStart none none, mark, after)) [.mappingStart none] after :=
  ⟨[(_, mark)], rfl, fun _ next _ _ _ => by simp [DocumentEvents.read, next, addNode]⟩

theorem mappingEnd : Emits (.ok (.mappingEnd, mark, after)) [.mappingEnd] after :=
  ⟨[(_, mark)], rfl, fun _ next _ _ _ => by simp [DocumentEvents.read, next, addNode]⟩

end Emits

namespace Layout

abbrev reading (rest : List Token) (goal : Goal) (later : List Goal) (opened : List Mark)
    (handles : List (List Char × List Char)) : EventReader :=
  { tokens := rest, failure := none, goal, later, opened, handles }

section Emits

variable {list rest : List Token} {goal wanted : Goal} {later : List Goal} {opened : List Mark}
  {handles : List (List Char × List Char)} {flush : Bool}

theorem emits_scalar {text : List Char} {style : ScalarStyle} (token : Token)
    (lexeme_eq : token.lexeme = .scalar text style) :
    Emits ((reading (token :: rest) goal (wanted :: later) opened handles).readNode true flush)
      [.scalar none text style] (reading rest wanted later opened handles) := by
  obtain ⟨_, start, stop⟩ := token
  subst lexeme_eq
  exact .scalar text style

theorem emits_mappingStart (token : Token) (lexeme_eq : token.lexeme = .blockMappingStart) :
    Emits ((reading (token :: rest) goal later opened handles).readNode true flush)
      [.mappingStart none] (reading (token :: rest) (.blockMappingKey true) later opened handles) := by
  obtain ⟨_, start, stop⟩ := token
  subst lexeme_eq
  cases flush <;> exact .mappingStart

theorem emits_sequenceStart (token : Token) (lexeme_eq : token.lexeme = .blockSequenceStart) :
    Emits ((reading (token :: rest) goal later opened handles).readNode true flush)
      [.sequenceStart none]
      (reading (token :: rest) (.blockSequenceEntry true) later opened handles) := by
  obtain ⟨_, start, stop⟩ := token
  subst lexeme_eq
  cases flush <;> exact .sequenceStart

theorem emits_key {key : List Char} (mark scalar : Token) (mark_eq : mark.lexeme = .key)
    (scalar_eq : scalar.lexeme = .scalar key .plain) :
    Emits (reading (mark :: scalar :: rest) goal later opened handles).readBlockMappingKey
      [.scalar none key .plain] (reading rest .blockMappingValue later opened handles) := by
  obtain ⟨_, start, stop⟩ := mark
  obtain ⟨_, start', stop'⟩ := scalar
  subst mark_eq scalar_eq
  exact .scalar key .plain

theorem next_value (token first : Token) (token_eq : token.lexeme = .value)
    (filled : EventReader.leavesOut first.lexeme = false) :
    (reading (token :: first :: rest) .blockMappingValue later opened handles).next =
      (reading (first :: rest) (.blockMappingKey false) (.blockMappingKey false :: later) opened
        handles).readNode true true := by
  simp [EventReader.next, EventReader.readBlockMappingValue, EventReader.peek, EventReader.skip,
    token_eq, filled, ok_bind, EventReader.readNodeThen]

theorem readBlockSequenceEntry_item (token first : Token) (token_eq : token.lexeme = .blockEntry)
    (filled : first.lexeme ≠ .blockEntry ∧ first.lexeme ≠ .blockEnd) :
    (reading (token :: first :: rest) goal later opened handles).readBlockSequenceEntry =
      (reading (first :: rest) (.blockSequenceEntry false) (.blockSequenceEntry false :: later) opened
        handles).readNode true false := by
  simp [EventReader.readBlockSequenceEntry, EventReader.peek, EventReader.skip,
    token_eq, filled, ok_bind, EventReader.readNodeThen]

end Emits

def startsLayout : Lexeme → Bool
  | .scalar _ _ => true
  | .blockMappingStart => true
  | .blockSequenceStart => true
  | _ => false

theorem exists_first (layout : Layout) :
    ∃ lexeme more, layout.lexemes = lexeme :: more ∧ startsLayout lexeme = true := by
  cases layout with
  | plain text => exact ⟨_, _, rfl, rfl⟩
  | literal lines => exact ⟨_, _, rfl, rfl⟩
  | mapping key value rest => exact ⟨_, _, rfl, rfl⟩
  | sequence first rest => exact ⟨_, _, rfl, rfl⟩

theorem leavesOut_of_startsLayout {lexeme : Lexeme} (starts : startsLayout lexeme = true) :
    EventReader.leavesOut lexeme = false := by
  cases lexeme <;> first | rfl | cases starts

theorem noItem_of_startsLayout {lexeme : Lexeme} (starts : startsLayout lexeme = true) :
    lexeme ≠ .blockEntry ∧ lexeme ≠ .blockEnd := by
  constructor <;> rintro rfl <;> cases starts

/-- The events of a layout are read from its tokens wherever a node may stand. -/
def EmitsNode (layout : Layout) : Prop :=
  ∀ ⦃list : List Token⦄, list.map (·.lexeme) = layout.lexemes → ∀ rest goal wanted later opened handles
    flush, Emits ((reading (list ++ rest) goal (wanted :: later) opened handles).readNode true flush)
      layout.events (reading rest wanted later opened handles)

section Emits

variable {layout : Layout} {list : List Token}

theorem EmitsNode.entry {key : String} (value : layout.EmitsNode)
    (lexemes_eq : list.map (·.lexeme) =
      .key :: .scalar key.toList .plain :: .value :: layout.lexemes)
    (rest : List Token) (goal : Goal) (later : List Goal) (opened : List Mark)
    (handles : List (List Char × List Char)) :
    Emits (reading (list ++ rest) goal later opened handles).readBlockMappingKey
      (.scalar none key.toList .plain :: layout.events)
      (reading rest (.blockMappingKey false) later opened handles) := by
  obtain ⟨mark, _, rfl, mark_eq, lexemes_eq⟩ := List.map_eq_cons_iff.mp lexemes_eq
  obtain ⟨scalar, _, rfl, scalar_eq, lexemes_eq⟩ := List.map_eq_cons_iff.mp lexemes_eq
  obtain ⟨colon, list, rfl, colon_eq, lexemes_eq⟩ := List.map_eq_cons_iff.mp lexemes_eq
  obtain ⟨lexeme, more, first_eq, starts⟩ := exists_first layout
  obtain ⟨first, others, rfl, rfl, _⟩ := List.map_eq_cons_iff.mp (lexemes_eq.trans first_eq)
  have front : Emits (reading (mark :: scalar :: colon :: first :: (others ++ rest)) goal later opened
      handles).readBlockMappingKey [.scalar none key.toList .plain]
      (reading (colon :: first :: (others ++ rest)) .blockMappingValue later opened handles) :=
    emits_key mark scalar mark_eq scalar_eq
  refine front.trans ?_
  rw [next_value colon first colon_eq (leavesOut_of_startsLayout starts)]
  exact value lexemes_eq rest _ _ _ _ _ _

theorem EmitsNode.item (item : layout.EmitsNode)
    (lexemes_eq : list.map (·.lexeme) = .blockEntry :: layout.lexemes)
    (rest : List Token) (goal : Goal) (later : List Goal) (opened : List Mark)
    (handles : List (List Char × List Char)) :
    Emits (reading (list ++ rest) goal later opened handles).readBlockSequenceEntry layout.events
      (reading rest (.blockSequenceEntry false) later opened handles) := by
  obtain ⟨hyphen, list, rfl, hyphen_eq, lexemes_eq⟩ := List.map_eq_cons_iff.mp lexemes_eq
  obtain ⟨lexeme, more, first_eq, starts⟩ := exists_first layout
  obtain ⟨first, others, rfl, rfl, _⟩ := List.map_eq_cons_iff.mp (lexemes_eq.trans first_eq)
  rw [List.cons_append, List.cons_append,
    readBlockSequenceEntry_item hyphen first hyphen_eq (noItem_of_startsLayout starts)]
  exact item lexemes_eq rest _ _ _ _ _ _

end Emits

def EmitEntries (entries : List (String × Layout)) : Prop :=
  ∀ ⦃list : List Token⦄, list.map (·.lexeme) = entryLexemes entries ++ [.blockEnd] →
    ∀ rest wanted later mark opened handles,
      Emits (reading (list ++ rest) (.blockMappingKey false) (wanted :: later) (mark :: opened)
        handles).next (entryEvents entries ++ [.mappingEnd]) (reading rest wanted later opened handles)

def EmitItems (items : List Layout) : Prop :=
  ∀ ⦃list : List Token⦄, list.map (·.lexeme) = itemLexemes items ++ [.blockEnd] →
    ∀ rest wanted later mark opened handles,
      Emits (reading (list ++ rest) (.blockSequenceEntry false) (wanted :: later) (mark :: opened)
        handles).next (itemEvents items ++ [.sequenceEnd]) (reading rest wanted later opened handles)

theorem emitEntries_nil : EmitEntries [] := by
  intro list lexemes_eq rest wanted later mark opened handles
  obtain ⟨token, rfl, token_eq⟩ := List.map_eq_singleton_iff.mp lexemes_eq
  have step : (reading (token :: rest) (.blockMappingKey false) (wanted :: later) (mark :: opened)
      handles).next = .ok (.mappingEnd, token.start, reading rest wanted later opened handles) := by
    simp [EventReader.next, EventReader.readBlockMappingKey, EventReader.peek, EventReader.skip,
      EventReader.close, EventReader.finish, token_eq, ok_bind]
  exact step ▸ Emits.mappingEnd

theorem emitItems_nil : EmitItems [] := by
  intro list lexemes_eq rest wanted later mark opened handles
  obtain ⟨token, rfl, token_eq⟩ := List.map_eq_singleton_iff.mp lexemes_eq
  have step : (reading (token :: rest) (.blockSequenceEntry false) (wanted :: later) (mark :: opened)
      handles).next = .ok (.sequenceEnd, token.start, reading rest wanted later opened handles) := by
    simp [EventReader.next, EventReader.readBlockSequenceEntry, EventReader.peek, EventReader.skip,
      EventReader.close, EventReader.finish, token_eq, ok_bind]
  exact step ▸ Emits.sequenceEnd

theorem emitEntries_cons {key : String} {value : Layout} {entries : List (String × Layout)}
    (emitsValue : value.EmitsNode) (emitsRest : EmitEntries entries) :
    EmitEntries ((key, value) :: entries) := by
  intro list lexemes_eq rest wanted later mark opened handles
  have split : list.map (·.lexeme) =
      (.key :: .scalar key.toList .plain :: .value :: value.lexemes) ++
        (entryLexemes entries ++ [.blockEnd]) := by
    simpa [entryLexemes] using lexemes_eq
  obtain ⟨entry, others, rfl, entry_eq, others_eq⟩ := List.map_eq_append_iff.mp split
  have first := emitsValue.entry entry_eq (others ++ rest) (.blockMappingKey false)
    (wanted :: later) (mark :: opened) handles
  have whole := first.trans (emitsRest others_eq rest wanted later mark opened handles)
  have step : (reading (entry ++ (others ++ rest)) (.blockMappingKey false) (wanted :: later)
      (mark :: opened) handles).next = (reading (entry ++ (others ++ rest)) (.blockMappingKey false)
        (wanted :: later) (mark :: opened) handles).readBlockMappingKey := by
    obtain ⟨token, more, rfl, _⟩ := List.map_eq_cons_iff.mp entry_eq
    rfl
  rw [List.append_assoc, step]
  simpa [entryEvents] using whole

theorem emitItems_cons {item : Layout} {items : List Layout} (emitsItem : item.EmitsNode)
    (emitsRest : EmitItems items) : EmitItems (item :: items) := by
  intro list lexemes_eq rest wanted later mark opened handles
  have split : list.map (·.lexeme) =
      (.blockEntry :: item.lexemes) ++ (itemLexemes items ++ [.blockEnd]) := by
    simpa [itemLexemes] using lexemes_eq
  obtain ⟨entry, others, rfl, entry_eq, others_eq⟩ := List.map_eq_append_iff.mp split
  have first := emitsItem.item entry_eq (others ++ rest) (.blockSequenceEntry false)
    (wanted :: later) (mark :: opened) handles
  have whole := first.trans (emitsRest others_eq rest wanted later mark opened handles)
  have step : (reading (entry ++ (others ++ rest)) (.blockSequenceEntry false) (wanted :: later)
      (mark :: opened) handles).next = (reading (entry ++ (others ++ rest)) (.blockSequenceEntry false)
        (wanted :: later) (mark :: opened) handles).readBlockSequenceEntry := by
    obtain ⟨token, more, rfl, _⟩ := List.map_eq_cons_iff.mp entry_eq
    rfl
  rw [List.append_assoc, step]
  simpa [itemEvents] using whole

theorem emitsNode_mapping {key : String} {value : Layout} {entries : List (String × Layout)}
    (emitsValue : value.EmitsNode) (emitsRest : EmitEntries entries) :
    (mapping key value entries).EmitsNode := by
  intro list lexemes_eq rest goal wanted later opened handles flush
  have split : list.map (·.lexeme) = .blockMappingStart ::
      ((.key :: .scalar key.toList .plain :: .value :: value.lexemes) ++
        (entryLexemes entries ++ [.blockEnd])) := by
    simpa [lexemes] using lexemes_eq
  obtain ⟨start, _, rfl, start_eq, split⟩ := List.map_eq_cons_iff.mp split
  obtain ⟨entry, others, rfl, entry_eq, others_eq⟩ := List.map_eq_append_iff.mp split
  have first := emitsValue.entry entry_eq (others ++ rest) (.blockMappingKey true)
    (wanted :: later) (start.start :: opened) handles
  have whole := first.trans (emitsRest others_eq rest wanted later start.start opened handles)
  have step : (reading (start :: (entry ++ (others ++ rest))) (.blockMappingKey true)
      (wanted :: later) opened handles).next = (reading (entry ++ (others ++ rest))
        (.blockMappingKey true) (wanted :: later) (start.start :: opened)
        handles).readBlockMappingKey := rfl
  have opening : Emits ((reading (start :: (entry ++ (others ++ rest))) goal (wanted :: later) opened
      handles).readNode true flush) [.mappingStart none] _ := emits_mappingStart start start_eq
  rw [List.cons_append, List.append_assoc]
  simpa [events] using opening.trans (step ▸ whole)

theorem emitsNode_sequence {item : Layout} {items : List Layout} (emitsItem : item.EmitsNode)
    (emitsRest : EmitItems items) : (sequence item items).EmitsNode := by
  intro list lexemes_eq rest goal wanted later opened handles flush
  have split : list.map (·.lexeme) = .blockSequenceStart ::
      ((.blockEntry :: item.lexemes) ++ (itemLexemes items ++ [.blockEnd])) := by
    simpa [lexemes] using lexemes_eq
  obtain ⟨start, _, rfl, start_eq, split⟩ := List.map_eq_cons_iff.mp split
  obtain ⟨entry, others, rfl, entry_eq, others_eq⟩ := List.map_eq_append_iff.mp split
  have first := emitsItem.item entry_eq (others ++ rest) (.blockSequenceEntry true)
    (wanted :: later) (start.start :: opened) handles
  have whole := first.trans (emitsRest others_eq rest wanted later start.start opened handles)
  have step : (reading (start :: (entry ++ (others ++ rest))) (.blockSequenceEntry true)
      (wanted :: later) opened handles).next = (reading (entry ++ (others ++ rest))
        (.blockSequenceEntry true) (wanted :: later) (start.start :: opened)
        handles).readBlockSequenceEntry := rfl
  have opening : Emits ((reading (start :: (entry ++ (others ++ rest))) goal (wanted :: later) opened
      handles).readNode true flush) [.sequenceStart none] _ := emits_sequenceStart start start_eq
  rw [List.cons_append, List.append_assoc]
  simpa [events] using opening.trans (step ▸ whole)

mutual

theorem emitsNode : (layout : Layout) → layout.EmitsNode
  | .plain text => by
      intro list lexemes_eq rest goal wanted later opened handles flush
      obtain ⟨token, rfl, token_eq⟩ := List.map_eq_singleton_iff.mp lexemes_eq
      exact emits_scalar token token_eq
  | .literal lines => by
      intro list lexemes_eq rest goal wanted later opened handles flush
      obtain ⟨token, rfl, token_eq⟩ := List.map_eq_singleton_iff.mp lexemes_eq
      exact emits_scalar token token_eq
  | .mapping _ value entries => emitsNode_mapping (emitsNode value) (emitEntries entries)
  | .sequence first items => emitsNode_sequence (emitsNode first) (emitItems items)

theorem emitEntries : (entries : List (String × Layout)) → EmitEntries entries
  | [] => emitEntries_nil
  | (_, value) :: entries => emitEntries_cons (emitsNode value) (emitEntries entries)

theorem emitItems : (items : List Layout) → EmitItems items
  | [] => emitItems_nil
  | item :: items => emitItems_cons (emitsNode item) (emitItems items)

end

mutual

theorem length_events_le : (layout : Layout) → layout.events.length ≤ layout.lexemes.length
  | .plain _ => Nat.le_refl _
  | .literal _ => Nat.le_refl _
  | .mapping _ value rest => by
      have inValue := length_events_le value
      have inRest := length_entryEvents_le rest
      simp only [events, lexemes, List.length_append, List.length_cons, List.length_nil]
      omega
  | .sequence first rest => by
      have inFirst := length_events_le first
      have inRest := length_itemEvents_le rest
      simp only [events, lexemes, List.length_append, List.length_cons, List.length_nil]
      omega

theorem length_entryEvents_le : (rest : List (String × Layout)) →
    (entryEvents rest).length ≤ (entryLexemes rest).length
  | [] => Nat.le_refl _
  | (_, value) :: rest => by
      have inValue := length_events_le value
      have inRest := length_entryEvents_le rest
      simp only [entryEvents, entryLexemes, List.length_append, List.length_cons]
      omega

theorem length_itemEvents_le : (rest : List Layout) →
    (itemEvents rest).length ≤ (itemLexemes rest).length
  | [] => Nat.le_refl _
  | item :: rest => by
      have inItem := length_events_le item
      have inRest := length_itemEvents_le rest
      simp only [itemEvents, itemLexemes, List.length_append, List.length_cons]
      omega

end

theorem next_openStream (start first : Token) (starts : startsLayout first.lexeme = true)
    (rest : List Token) :
    EventReader.next { tokens := start :: first :: rest, failure := none } =
      .ok (.documentStart, first.start,
        reading (first :: rest) .blockNode [.documentEnd] [] EventReader.defaultHandles) := by
  obtain ⟨lexeme, begins, stops⟩ := first
  cases lexeme <;> first | rfl | cases starts

theorem read_document {layout : Layout} {list : List Token} {fuel : Nat}
    (lexemes_eq : list.map (·.lexeme) = .streamStart :: layout.lexemes ++ [.streamEnd])
    (enough : list.length < fuel) :
    ∃ (marked : List (NodeEvent × Mark)) (rest : EventReader) (mark : Mark),
      marked.map (·.1) = layout.events ∧
      DocumentEvents.read fuel { tokens := list, failure := none } [] {} =
        ({ events := marked.toArray }, .document rest) ∧
      DocumentEvents.read fuel rest [] {} = ({}, .stream mark) := by
  obtain ⟨front, ends, rfl, front_eq, ends_eq⟩ := List.map_eq_append_iff.mp lexemes_eq
  obtain ⟨start, list, rfl, start_eq, list_eq⟩ := List.map_eq_cons_iff.mp front_eq
  obtain ⟨last, rfl, last_eq⟩ := List.map_eq_singleton_iff.mp ends_eq
  obtain ⟨marked, marked_eq, leads⟩ := emitsNode layout list_eq [last] .blockNode .documentEnd [] []
    EventReader.defaultHandles false
  obtain ⟨lexeme, more, first_eq, starts⟩ := exists_first layout
  obtain ⟨first, others, rfl, rfl, _⟩ := List.map_eq_cons_iff.mp (list_eq.trans first_eq)
  have few := length_events_le layout
  rw [← list_eq, List.length_map] at few
  obtain ⟨spare, rfl⟩ : ∃ spare, fuel = (spare + 1) + layout.events.length + 1 :=
    ⟨fuel - layout.events.length - 2, by simp at enough few ⊢; omega⟩
  obtain ⟨lexeme, begins, stops⟩ := last
  subst last_eq
  refine ⟨marked, reading [⟨.streamEnd, begins, stops⟩] (.document false) [] [] [], begins, marked_eq,
    ?_, rfl⟩
  have opening := next_openStream start first starts (others ++ [⟨.streamEnd, begins, stops⟩])
  rw [DocumentEvents.read, List.cons_append, List.cons_append, opening]
  dsimp only
  rw [← List.cons_append, leads rfl]
  simp [DocumentEvents.read, EventReader.next, EventReader.peek]

end Layout

end PipelineAdvisor.Yaml
