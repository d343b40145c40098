import PipelineAdvisor.Proofs.Yaml.LayoutEvents
import PipelineAdvisor.Proofs.Yaml.LayoutTokens

/-!
Layouts read back. A text laid out in block style, with a comment behind it or without, is read as the
node that the layout shows.
-/

namespace PipelineAdvisor.Yaml

def DocumentEvents.Shows (document : DocumentEvents) (place : Nat) (events : List NodeEvent) : Prop :=
  events <+: (document.events.toList.drop place).map (·.1)

namespace DocumentEvents.Shows

variable {document : DocumentEvents} {place : Nat}

theorem eventAt {event : NodeEvent} {events : List NodeEvent}
    (shows : document.Shows place (event :: events)) (aliases : Nat) :
    ∃ mark, document.eventAt ⟨place, aliases⟩ = .ok (event, mark) := by
  obtain ⟨more, shown⟩ := shows
  obtain ⟨⟨first, mark⟩, others, drop_eq, first_eq, _⟩ := List.map_eq_cons_iff.mp shown.symm
  refine ⟨mark, ?_⟩
  have found : (document.events.toList.drop place)[0]? = some (event, mark) := by
    rw [drop_eq, ← first_eq]
    rfl
  rw [List.getElem?_drop, Nat.add_zero, Array.getElem?_toList] at found
  simp [DocumentEvents.eventAt, found]

theorem left {first second : List NodeEvent} (shows : document.Shows place (first ++ second)) :
    document.Shows place first :=
  (List.prefix_append first second).trans shows

theorem right {first second : List NodeEvent} (shows : document.Shows place (first ++ second)) :
    document.Shows (place + first.length) second := by
  obtain ⟨more, shown⟩ := shows
  refine ⟨more, ?_⟩
  rw [← List.drop_drop, List.map_drop, ← shown, List.append_assoc, List.drop_left]

theorem next {event : NodeEvent} {events : List NodeEvent}
    (shows : document.Shows place (event :: events)) : document.Shows (place + 1) events := by
  rw [← List.singleton_append] at shows
  exact shows.right

end DocumentEvents.Shows

theorem Scalar.eq_of_integerReading? {text : List Char} {node : Node}
    (read : integerReading? text = some (.value node)) : ∃ value, node = .number (.integer value) := by
  simp only [integerReading?] at read
  split at read
  · split at read
    · exact ⟨_, (Reading.value.inj (Option.some.inj read)).symm⟩
    · split at read <;> simp at read
  · simp at read

theorem Scalar.eq_of_resolve {text word : String} (resolved : resolve text = .value (.string word)) :
    word = text := by
  simp only [resolve] at resolved
  split at resolved
  · cases resolved
  split at resolved
  · cases resolved
  split at resolved
  next reading found =>
    subst resolved
    obtain ⟨value, number⟩ := eq_of_integerReading? found
    cases number
  split at resolved
  · exact (Node.string.inj (Reading.value.inj resolved)).symm
  split at resolved
  · cases resolved
  · exact (Node.string.inj (Reading.value.inj resolved)).symm

theorem resolve_of_standsFor {next : Char} {text : String} (stands : standsFor next text = true) :
    Scalar.resolve text = .value (Layout.scalarNode text) := by
  have value := (Bool.and_eq_true_iff.mp stands).2
  rw [Layout.scalarNode]
  split at value
  next node resolved => rw [resolved]
  next => cases value

theorem allowed_of_standsFor {next : Char} {text : String} (stands : standsFor next text = true) :
    ∀ c ∈ text.toList, isAllowed c = true :=
  List.all_eq_true.mp (Bool.and_eq_true_iff.mp (Bool.and_eq_true_iff.mp stands).1).2

/-- What stands plain is read as a string just if it is a word. -/
theorem scalarNode_eq_string_iff {text : String} :
    Layout.scalarNode text = .string text ↔ isWord text = true := by
  unfold Layout.scalarNode isWord
  cases resolved : Scalar.resolve text with
  | tooWide number => exact ⟨nofun, nofun⟩
  | value node =>
      cases node with
      | string word => exact ⟨fun _ => rfl, fun _ => by rw [Scalar.eq_of_resolve resolved]⟩
      | _ => exact ⟨nofun, nofun⟩

namespace Layout

def Builds (layout : Layout) : Prop :=
  ∀ ⦃document : DocumentEvents⦄ ⦃place : Nat⦄, document.Shows place layout.events →
    ∀ ⦃fuel : Nat⦄, layout.events.length ≤ fuel →
    ∀ ⦃context : BuildContext⦄, layout.node.depth ≤ context.levels → ∀ aliases,
    document.build fuel context false ⟨place, aliases⟩ =
      .ok (layout.node, ⟨place + layout.events.length, aliases⟩)

def BuildEntries (entries : List (String × Layout)) : Prop :=
  ∀ ⦃document : DocumentEvents⦄ ⦃place : Nat⦄,
    document.Shows place (entryEvents entries ++ [.mappingEnd]) →
    ∀ ⦃fuel : Nat⦄, (entryEvents entries).length < fuel →
    ∀ ⦃context : BuildContext⦄, Node.depthEntries (entryNodes entries) ≤ context.levels →
    ∀ ⦃before : List (Node × Node)⦄,
    (∀ entry ∈ before, ∀ key ∈ entries.map (·.1), entry.1.same (scalarNode key) = false) →
    ∀ mark aliases, document.buildEntries fuel context false mark before ⟨place, aliases⟩ =
      .ok (before ++ entryNodes entries, ⟨place + (entryEvents entries).length + 1, aliases⟩)

def BuildItems (items : List Layout) : Prop :=
  ∀ ⦃document : DocumentEvents⦄ ⦃place : Nat⦄,
    document.Shows place (itemEvents items ++ [.sequenceEnd]) →
    ∀ ⦃fuel : Nat⦄, (itemEvents items).length < fuel →
    ∀ ⦃context : BuildContext⦄, Node.depthItems (itemNodes items) ≤ context.levels →
    ∀ index aliases, document.buildItems fuel context index ⟨place, aliases⟩ =
      .ok (itemNodes items, ⟨place + (itemEvents items).length + 1, aliases⟩)

theorem builds_scalar {document : DocumentEvents} {place fuel : Nat} {text : List Char}
    {style : ScalarStyle} {node : Node} {events : List NodeEvent}
    (shows : document.Shows place (.scalar none text style :: events)) (enough : 0 < fuel)
    (read : DocumentEvents.scalarNode none text style = .ok node) (context : BuildContext)
    (aliases : Nat) :
    document.build fuel context false ⟨place, aliases⟩ = .ok (node, ⟨place + 1, aliases⟩) := by
  obtain ⟨fuel, rfl⟩ := Nat.exists_eq_add_one_of_ne_zero (Nat.ne_of_gt enough)
  obtain ⟨mark, here⟩ := shows.eventAt aliases
  simp only [DocumentEvents.build, here, ok_bind, DocumentEvents.localTag?, read, Bool.false_eq_true,
    if_false]
  rfl

theorem scalarNode_of_standsFor {next : Char} {text : String} (stands : standsFor next text = true) :
    DocumentEvents.scalarNode none text.toList .plain = .ok (scalarNode text) := by
  simp [DocumentEvents.scalarNode, resolve_of_standsFor stands]

theorem builds_plain {text : String} (stands : standsAsValue text = true) : (plain text).Builds :=
  fun _ _ shows _ enough context _ aliases =>
    builds_scalar shows enough (scalarNode_of_standsFor stands) context aliases

theorem builds_literal (lines : List String) : (literal lines).Builds :=
  fun _ _ shows _ enough context _ aliases => builds_scalar shows enough rfl context aliases

theorem buildEntries_nil : BuildEntries [] := by
  intro document place shows fuel enough context _ before _ mark aliases
  obtain ⟨fuel, rfl⟩ := Nat.exists_eq_add_one_of_ne_zero (Nat.ne_of_gt enough)
  obtain ⟨there, here⟩ := shows.eventAt aliases
  simp only [DocumentEvents.buildEntries, here, ok_bind]
  simp [entryNodes, entryEvents]
  rfl

theorem buildItems_nil : BuildItems [] := by
  intro document place shows fuel enough context _ index aliases
  obtain ⟨fuel, rfl⟩ := Nat.exists_eq_add_one_of_ne_zero (Nat.ne_of_gt enough)
  obtain ⟨there, here⟩ := shows.eventAt aliases
  simp only [DocumentEvents.buildItems, here, ok_bind]
  rfl

theorem length_events_pos (layout : Layout) : 0 < layout.events.length := by
  cases layout <;> simp [events]

theorem buildEntries_cons {key : String} {value : Layout} {entries : List (String × Layout)}
    (stands : standsFor ':' key = true)
    (other : ∀ name ∈ entries.map (·.1), (scalarNode key).same (scalarNode name) = false)
    (buildsValue : value.Builds) (buildsRest : BuildEntries entries) :
    BuildEntries ((key, value) :: entries) := by
  intro document place shows fuel enough context deep before fresh mark aliases
  obtain ⟨fuel, rfl⟩ := Nat.exists_eq_add_one_of_ne_zero (Nat.ne_of_gt (Nat.zero_lt_of_lt enough))
  simp only [entryEvents, List.cons_append, List.append_assoc, List.length_cons, List.length_append]
    at shows enough
  have filled := length_events_pos value
  simp only [entryNodes, Node.depthEntries, Nat.max_le] at deep
  obtain ⟨there, here⟩ := shows.eventAt aliases
  have buildKey := builds_scalar shows (by omega : 0 < fuel) (scalarNode_of_standsFor stands) context
    aliases
  have missing : before.find? (fun entry => entry.1.same (scalarNode key)) = none := by
    rw [List.find?_eq_none]
    intro entry known
    simp [fresh entry known key List.mem_cons_self]
  have freshRest : ∀ entry ∈ before ++ [(scalarNode key, value.node)], ∀ name ∈ entries.map (·.1),
      entry.1.same (scalarNode name) = false := by
    intro entry known name later
    rcases List.mem_append.mp known with known | known
    · exact fresh entry known name (List.mem_cons_of_mem _ later)
    · obtain rfl := List.mem_singleton.mp known
      exact other name later
  have valueHere := @buildsValue document (place + 1) shows.next.left fuel (by omega)
    { context with path := context.path ++ [DocumentEvents.stepOf (.scalar none key.toList .plain)] }
    deep.1.2 aliases
  have restHere := @buildsRest document _ shows.next.right fuel (by omega) context deep.2 _ freshRest
    mark aliases
  simp only [DocumentEvents.buildEntries, here, ok_bind, buildKey, missing, valueHere, restHere,
    entryNodes, entryEvents, List.length_append, List.length_cons, List.append_assoc,
    List.singleton_append]
  congr 4
  omega

theorem buildItems_cons {item : Layout} {items : List Layout} (buildsItem : item.Builds)
    (buildsRest : BuildItems items) : BuildItems (item :: items) := by
  intro document place shows fuel enough context deep index aliases
  obtain ⟨fuel, rfl⟩ := Nat.exists_eq_add_one_of_ne_zero (Nat.ne_of_gt (Nat.zero_lt_of_lt enough))
  simp only [itemEvents, List.append_assoc, List.length_append] at shows enough
  have filled := length_events_pos item
  simp only [itemNodes, Node.depthItems, Nat.max_le] at deep
  have itemHere := @buildsItem document place shows.left fuel (by omega)
    { context with path := context.path ++ [.item index] } deep.1 aliases
  have restHere := @buildsRest document _ shows.right fuel (by omega) context deep.2 (index + 1) aliases
  obtain ⟨event, events, events_eq, goesOn⟩ : ∃ event events, item.events = event :: events ∧
      event ≠ .sequenceEnd := by
    cases item with
    | plain text => exact ⟨_, _, rfl, nofun⟩
    | literal lines => exact ⟨_, _, rfl, nofun⟩
    | mapping key value rest => exact ⟨_, _, rfl, nofun⟩
    | sequence first rest => exact ⟨_, _, rfl, nofun⟩
  obtain ⟨there, here⟩ := (events_eq ▸ shows.left).eventAt aliases
  rw [DocumentEvents.buildItems, here, ok_bind]
  dsimp only
  split
  next => exact absurd rfl goesOn
  next =>
    rw [itemHere, ok_bind]
    dsimp only
    rw [restHere, ok_bind]
    simp only [itemNodes, itemEvents, List.length_append, Nat.add_assoc]
    rfl

theorem builds_mapping {key : String} {value : Layout} {rest : List (String × Layout)}
    (builds : BuildEntries ((key, value) :: rest)) : (mapping key value rest).Builds := by
  intro document place shows fuel enough context deep aliases
  obtain ⟨fuel, rfl⟩ := Nat.exists_eq_add_one_of_ne_zero
    (Nat.ne_of_gt (Nat.lt_of_lt_of_le (length_events_pos _) enough))
  obtain ⟨mark, here⟩ := shows.eventAt aliases
  have events_eq : (mapping key value rest).events =
      .mappingStart none :: (entryEvents ((key, value) :: rest) ++ [.mappingEnd]) := by
    simp [events, entryEvents]
  rw [events_eq] at shows enough ⊢
  have deep : Node.depthEntries (entryNodes ((key, value) :: rest)) + 1 ≤ context.levels := deep
  have entries := @builds document _ shows.next fuel (by simp at enough ⊢; omega)
    { context with levels := context.levels - 1 } (by simp; omega) [] (by simp) mark aliases
  have room : context.levels ≠ 0 := by omega
  simp only [DocumentEvents.build, here, ok_bind, DocumentEvents.localTag?, Bool.false_eq_true,
    if_false, room, entries]
  have place_eq : place + 1 + (entryEvents ((key, value) :: rest)).length + 1 =
      place + (.mappingStart none :: (entryEvents ((key, value) :: rest) ++ [.mappingEnd])).length := by
    simp
    omega
  rw [place_eq]
  rfl

theorem builds_sequence {first : Layout} {rest : List Layout} (builds : BuildItems (first :: rest)) :
    (sequence first rest).Builds := by
  intro document place shows fuel enough context deep aliases
  obtain ⟨fuel, rfl⟩ := Nat.exists_eq_add_one_of_ne_zero
    (Nat.ne_of_gt (Nat.lt_of_lt_of_le (length_events_pos _) enough))
  obtain ⟨mark, here⟩ := shows.eventAt aliases
  have events_eq : (sequence first rest).events =
      .sequenceStart none :: (itemEvents (first :: rest) ++ [.sequenceEnd]) := by
    simp [events, itemEvents]
  rw [events_eq] at shows enough ⊢
  have deep : Node.depthItems (itemNodes (first :: rest)) + 1 ≤ context.levels := deep
  have items := @builds document _ shows.next fuel (by simp at enough ⊢; omega)
    { context with levels := context.levels - 1 } (by simp; omega) 0 aliases
  have room : context.levels ≠ 0 := by omega
  simp only [DocumentEvents.build, here, ok_bind, DocumentEvents.localTag?, Bool.false_eq_true,
    if_false, room, items]
  have place_eq : place + 1 + (itemEvents (first :: rest)).length + 1 =
      place + (.sequenceStart none :: (itemEvents (first :: rest) ++ [.sequenceEnd])).length := by
    simp
    omega
  rw [place_eq]
  rfl

mutual

theorem builds : (layout : Layout) → {level : Nat} → layout.fits level = true → layout.Builds
  | .plain _, _, fits => by
      simp only [Layout.fits, Bool.and_eq_true] at fits
      exact builds_plain fits.1
  | .literal lines, _, _ => builds_literal lines
  | .mapping key value rest, _, fits => by
      simp only [Layout.fits, standsAsKey, Bool.and_eq_true, decide_eq_true_eq,
        List.pairwise_cons] at fits
      obtain ⟨⟨⟨⟨⟨stands, _⟩, _⟩, fitsValue⟩, fitsRest⟩, other, distinct⟩ := fits
      exact builds_mapping
        (buildEntries_cons stands other (builds value fitsValue) (buildEntries rest fitsRest distinct))
  | .sequence first rest, _, fits => by
      simp only [Layout.fits, Bool.and_eq_true] at fits
      exact builds_sequence (buildItems_cons (builds first fits.1) (buildItems rest fits.2))

theorem buildEntries : (entries : List (String × Layout)) → {level : Nat} →
    entriesFit level entries = true →
    (entries.map (·.1)).Pairwise (fun first second =>
      (scalarNode first).same (scalarNode second) = false) → BuildEntries entries
  | [], _, _, _ => buildEntries_nil
  | (_, value) :: rest, _, fits, distinct => by
      simp only [entriesFit, standsAsKey, Bool.and_eq_true] at fits
      obtain ⟨⟨⟨⟨stands, _⟩, _⟩, fitsValue⟩, fitsRest⟩ := fits
      obtain ⟨other, distinct⟩ := List.pairwise_cons.mp distinct
      exact buildEntries_cons stands other (builds value fitsValue)
        (buildEntries rest fitsRest distinct)

theorem buildItems : (items : List Layout) → {level : Nat} → itemsFit level items = true →
    BuildItems items
  | [], _, _ => buildItems_nil
  | item :: rest, _, fits => by
      simp only [itemsFit, Bool.and_eq_true] at fits
      exact buildItems_cons (builds item fits.1) (buildItems rest fits.2)

end

theorem root_eq_ok {layout : Layout} {level : Nat} (fits : layout.fits level = true)
    (levels : layout.node.depth ≤ 128) {marked : List (NodeEvent × Mark)}
    (marked_eq : marked.map (·.1) = layout.events) :
    DocumentEvents.root { events := marked.toArray } = .ok layout.node := by
  have shows : DocumentEvents.Shows { events := marked.toArray } 0 layout.events := by
    have same : marked.toArray.toList.map (·.1) = layout.events := marked_eq
    exact same ▸ List.prefix_refl _
  have enough : layout.events.length ≤ 140 * (marked.toArray.size + 8) := by
    rw [← marked_eq, List.length_map, List.size_toArray]
    omega
  have built := @builds layout level fits _ 0 shows _ enough {} levels 0
  rw [DocumentEvents.root]
  dsimp only
  rw [built, ok_bind]
  rfl

theorem allowed_spaces (column : Nat) : ∀ c ∈ Scalar.spaces column, isAllowed c = true := by
  intro c known
  rw [List.eq_of_mem_replicate known]
  decide

theorem allowed_lead (column : Nat) (value : Layout) : ∀ c ∈ value.lead column, isAllowed c = true := by
  rw [lead]
  split
  · exact List.forall_mem_singleton.mpr (by decide)
  · exact List.forall_mem_cons.mpr ⟨by decide, allowed_spaces column⟩

mutual

theorem allowed : (layout : Layout) → (level : Nat) → layout.fits level = true →
    ∀ c ∈ layout.text level, isAllowed c = true
  | .plain _, _, fits => by
      simp only [Layout.fits, standsAsValue, Bool.and_eq_true] at fits
      exact allowed_of_standsFor fits.1
  | .literal lines, level, fits => by
      simp only [Layout.fits, Bool.and_eq_true, List.all_eq_true] at fits
      have inLines : ∀ c ∈ Scalar.blockText level (lines.map String.toList), isAllowed c = true := by
        intro c known
        obtain ⟨line, isLine, known⟩ := List.mem_flatMap.mp known
        obtain ⟨text, isText, rfl⟩ := List.mem_map.mp isLine
        rcases List.mem_cons.mp known with rfl | known
        · decide
        · exact (List.mem_append.mp known).elim (allowed_spaces level c) (fits.2 text isText c)
      exact List.forall_mem_cons.mpr ⟨by decide, inLines⟩
  | .mapping key value rest, level, fits => by
      simp only [Layout.fits, standsAsKey, Bool.and_eq_true] at fits
      have inValue := allowed value (level + 2) fits.1.1.2
      have inRest := allowed_entries rest level fits.1.2
      simp only [text, List.forall_mem_append, List.forall_mem_cons]
      exact ⟨⟨allowed_of_standsFor fits.1.1.1.1.1, by decide, allowed_lead _ value, inValue⟩, inRest⟩
  | .sequence first rest, level, fits => by
      simp only [Layout.fits, Bool.and_eq_true] at fits
      have inFirst := allowed first (level + 2) fits.1
      have inRest := allowed_items rest level fits.2
      simp only [text, List.forall_mem_append, List.forall_mem_cons]
      exact ⟨⟨by decide, by decide, inFirst⟩, inRest⟩

theorem allowed_entries : (rest : List (String × Layout)) → (level : Nat) →
    entriesFit level rest = true → ∀ c ∈ entriesText level rest, isAllowed c = true
  | [], _, _ => nofun
  | (key, value) :: rest, level, fits => by
      simp only [entriesFit, standsAsKey, Bool.and_eq_true] at fits
      have inValue := allowed value (level + 2) fits.1.2
      have inRest := allowed_entries rest level fits.2
      simp only [entriesText, List.forall_mem_append, List.forall_mem_cons]
      exact ⟨⟨by decide, allowed_spaces level, allowed_of_standsFor fits.1.1.1.1, by decide,
        allowed_lead _ value, inValue⟩, inRest⟩

theorem allowed_items : (rest : List Layout) → (level : Nat) → itemsFit level rest = true →
    ∀ c ∈ itemsText level rest, isAllowed c = true
  | [], _, _ => nofun
  | item :: rest, level, fits => by
      simp only [itemsFit, Bool.and_eq_true] at fits
      have inItem := allowed item (level + 2) fits.1
      have inRest := allowed_items rest level fits.2
      simp only [itemsText, List.forall_mem_append, List.forall_mem_cons]
      exact ⟨⟨by decide, allowed_spaces level, by decide, by decide, inItem⟩, inRest⟩

end

theorem controlOffset?_of_allowed : ∀ {text : List Char}, (∀ c ∈ text, isAllowed c = true) →
    ∀ offset, controlOffset? offset text = none
  | [], _, _ => rfl
  | c :: rest, each, offset => by
      rw [controlOffset?, if_pos (each c List.mem_cons_self)]
      exact controlOffset?_of_allowed (fun d known => each d (List.mem_cons_of_mem _ known)) _

theorem readNode_eq_ok {characters : List Char} {list : List Token} {document : DocumentEvents}
    {rest : EventReader} {last : DocumentEvents} {mark : Mark} {node : Node}
    (noControl : controlOffset? 0 characters = none)
    (noMark : withoutByteOrderMark characters = characters)
    (tokens_eq : tokens characters = (list, none))
    (first : DocumentEvents.read (4 * list.length + 8) { tokens := list, failure := none } [] {} =
      (document, .document rest))
    (built : document.root = .ok node)
    (second : DocumentEvents.read (4 * list.length + 8) rest [] {} = (last, .stream mark)) :
    readNode (String.ofList characters) = .ok node := by
  unfold readNode
  rw [String.toList_ofList, noControl, noMark]
  split
  next found => cases found
  next =>
    extract_lets characters
    split
    next others failure scanned =>
      obtain ⟨rfl, rfl⟩ := Prod.mk.inj (scanned.symm.trans tokens_eq)
      -- The fuel counts the tokens; it is only a name here, so that nothing runs on it.
      extract_lets reader fuel
      have first : DocumentEvents.read fuel reader [] {} = (document, .document rest) := first
      have second : DocumentEvents.read fuel rest [] {} = (last, .stream mark) := second
      clear_value reader fuel
      rw [first]
      dsimp only
      rw [built, ok_bind, second]
      rfl

/-- A layout that fits is read back from its text. -/
theorem readNode_text {layout : Layout} (fits : layout.fits 0 = true)
    (ends : layout.endsLiteral = false) (levels : layout.node.depth ≤ 128) {tail : List Char}
    (closes : Closes tail) (allowedTail : ∀ c ∈ tail, isAllowed c = true) :
    readNode (String.ofList (layout.text 0 ++ tail)) = .ok layout.node := by
  obtain ⟨list, tokens_eq, lexemes_eq⟩ := tokens_text fits ends closes
  obtain ⟨marked, rest, mark, marked_eq, first, second⟩ :=
    @read_document layout list (4 * list.length + 8) lexemes_eq (by omega)
  have noControl : controlOffset? 0 (layout.text 0 ++ tail) = none :=
    controlOffset?_of_allowed (fun c known =>
      (List.mem_append.mp known).elim (allowed layout 0 fits c) (allowedTail c)) 0
  have noMark : withoutByteOrderMark (layout.text 0 ++ tail) = layout.text 0 ++ tail := by
    obtain ⟨c, others, text_eq, _⟩ := startsVisibly fits
    have head := head_text fits
    rw [text_eq, List.head?_cons] at head
    rw [text_eq, List.cons_append, withoutByteOrderMark]
    rintro _ eq
    exact head (congrArg some (List.cons_eq_cons.mp eq).1)
  exact readNode_eq_ok noControl noMark tokens_eq first (root_eq_ok fits levels marked_eq) second

/-! ### Depth of a layout -/

theorem depth_scalarNode (text : String) : (scalarNode text).depth = 0 := by
  unfold scalarNode
  split
  next node resolved =>
    have scalar := Scalar.resolve_isScalar resolved
    cases node <;> first | rfl | cases scalar
  next => rfl

@[simp] theorem depth_plain (text : String) : (plain text).node.depth = 0 :=
  depth_scalarNode text

@[simp] theorem depth_literal (lines : List String) : (literal lines).node.depth = 0 := rfl

@[simp] theorem depth_mapping (key : String) (value : Layout) (rest : List (String × Layout)) :
    (mapping key value rest).node.depth =
      max value.node.depth (Node.depthEntries (entryNodes rest)) + 1 := by
  rw [node, Node.depth, Node.depthEntries, depth_scalarNode, Nat.zero_max]

@[simp] theorem depth_sequence (first : Layout) (rest : List Layout) :
    (sequence first rest).node.depth = max first.node.depth (Node.depthItems (itemNodes rest)) + 1 :=
  rfl

@[simp] theorem depthEntries_nil : Node.depthEntries (entryNodes []) = 0 := rfl

@[simp] theorem depthEntries_cons (key : String) (value : Layout) (rest : List (String × Layout)) :
    Node.depthEntries (entryNodes ((key, value) :: rest)) =
      max value.node.depth (Node.depthEntries (entryNodes rest)) := by
  rw [entryNodes, Node.depthEntries, depth_scalarNode, Nat.zero_max]

@[simp] theorem depthItems_nil : Node.depthItems (itemNodes []) = 0 := rfl

@[simp] theorem depthItems_cons (first : Layout) (rest : List Layout) :
    Node.depthItems (itemNodes (first :: rest)) =
      max first.node.depth (Node.depthItems (itemNodes rest)) := rfl

end Layout

end PipelineAdvisor.Yaml
