import PipelineAdvisor.Yaml.Event

/-!
Building nodes from the events of a document. Aliases stand for copies of the nodes they name, equal
keys in one mapping are an error, and so are nodes that are nested too deeply or repeated too often.
Of several errors the one that comes first in the text is reported.
-/

namespace PipelineAdvisor.Yaml

inductive NodeEvent where
  | aliasOf (anchor : Nat)
  | scalar (tag : Option (List Char)) (text : List Char) (style : ScalarStyle)
  | sequenceStart (tag : Option (List Char))
  | sequenceEnd
  | mappingStart (tag : Option (List Char))
  | mappingEnd

structure DocumentEvents where
  events : Array (NodeEvent × Mark) := #[]
  failure : Option DocumentError := none
  anchors : List (Nat × Nat) := []

inductive DocumentEnd where
  /-- The document ended, and more may follow. -/
  | document (rest : EventReader)
  /-- The stream ended before another document began. -/
  | stream (mark : Mark)
  | failed

namespace DocumentEvents

/-- Names of anchors with their numbers. A name that is used again gets as its number the count of
names so far. -/
abbrev AnchorNames := List (List Char × Nat)

def numberFor (names : AnchorNames) (name : List Char) : Nat × AnchorNames :=
  let number := names.length
  (number, (name, number) :: names.filter fun known => known.1 != name)

def addNode (document : DocumentEvents) (names : AnchorNames) (anchor : Option (List Char))
    (event : NodeEvent) (mark : Mark) : DocumentEvents × AnchorNames :=
  let place := document.events.size
  let document := { document with events := document.events.push (event, mark) }
  match anchor with
  | none => (document, names)
  | some name =>
    let (number, names) := numberFor names name
    ({ document with
        anchors := (number, place) :: document.anchors.filter fun known => known.1 != number },
      names)

def read : Nat → EventReader → AnchorNames → DocumentEvents → DocumentEvents × DocumentEnd
  | 0, _, _, document => (document, .failed)
  | fuel + 1, reader, names, document =>
    match reader.next with
    | .error error => ({ document with failure := some (.malformed error) }, .failed)
    | .ok (event, mark, reader) =>
      let go (step : DocumentEvents × AnchorNames) := read fuel reader step.2 step.1
      match event with
      | .streamEnd => (document, .stream mark)
      | .documentStart => go (document, names)
      | .documentEnd => (document, .document reader)
      | .aliasName name =>
        match names.find? fun known => known.1 == name with
        | none => ({ document with failure := some (.unknownAnchor mark) }, .failed)
        | some (_, number) => go (document.addNode names none (.aliasOf number) mark)
      | .scalar anchor tag text style =>
        go (document.addNode names anchor (.scalar tag text style) mark)
      | .sequenceStart anchor tag => go (document.addNode names anchor (.sequenceStart tag) mark)
      | .sequenceEnd => go (document.addNode names none .sequenceEnd mark)
      | .mappingStart anchor tag => go (document.addNode names anchor (.mappingStart tag) mark)
      | .mappingEnd => go (document.addNode names none .mappingEnd mark)

end DocumentEvents

structure BuildState where
  place : Nat := 0
  aliases : Nat := 0

structure BuildContext where
  path : List PathStep := []
  levels : Nat := 128

namespace DocumentEvents

/-- The event at a place. Behind the last event stands the error that cut the document off. -/
def eventAt (document : DocumentEvents) (state : BuildState) :
    Except DocumentError (NodeEvent × Mark) :=
  match document.events[state.place]?, document.failure with
  | some event, _ => .ok event
  | none, some error => .error error
  | none, none => .error .severalDocuments

/-- Follows an alias, unless too many have been followed: a hundred times the number of events. -/
def follow (document : DocumentEvents) (anchor : Nat) (state : BuildState) :
    Except DocumentError BuildState :=
  let aliases := state.aliases + 1
  if document.events.size * 100 < aliases then .error .tooManyAliases
  else
    match document.anchors.find? fun known => known.1 == anchor with
    | some (_, place) => .ok { place, aliases }
    | none => .error .tooManyAliases

/-- The name of a local tag, which becomes part of the node; other tags only guide how scalars are
read. -/
def localTag? (tag : Option (List Char)) : Option String :=
  match tag with
  | some ['!'] => some "!"
  | some ['!', '!'] => some "!"
  | some ('!' :: '!' :: name) => some (String.ofList name)
  | some ('!' :: name) => some (String.ofList name)
  | _ => none

def coreValue? (tag : List Char) (text : String) : Option (Except ValueError Node) :=
  let name := String.ofList tag
  let orBad (core : CoreTag) (value : Option Node) : Option (Except ValueError Node) :=
    some (value.elim (.error (.badScalar core text)) .ok)
  if name == "tag:yaml.org,2002:bool" then orBad .bool ((Scalar.bool? text).map .bool)
  else if name == "tag:yaml.org,2002:int" then
    match Scalar.integerReading? text.toList with
    | some (.value node) => some (.ok node)
    | some (.tooWide number) => some (.error (.tooWide number))
    | none => orBad .integer none
  else if name == "tag:yaml.org,2002:float" then
    orBad .float ((Scalar.float? text.toList).map fun value => .number (.float value))
  else if name == "tag:yaml.org,2002:null" then
    orBad .null (if Scalar.isNull text then some .null else none)
  else none

/-- The node of a scalar. Its tag does not count if it has become part of the node or is out of
force. -/
def scalarNode (tag : Option (List Char)) (text : List Char) (style : ScalarStyle) :
    Except ValueError Node :=
  let text := String.ofList text
  let plain : Except ValueError Node :=
    match Scalar.resolve text with
    | .value node => .ok node
    | .tooWide number => .error (.tooWide number)
  match tag with
  | none => if style = .plain then plain else .ok (.string text)
  | some tag => (coreValue? tag text).getD (.ok (.string text))

def stepOf : NodeEvent → PathStep
  | .scalar _ text _ => .key (String.ofList text)
  | _ => .unknown

mutual

/-- Builds the node at a place. `tagged` says that its tag is out of force, because it stands around
the node already or because the node is a key of a tagged mapping. -/
def build (document : DocumentEvents) :
    Nat → BuildContext → Bool → BuildState → Except DocumentError (Node × BuildState)
  | 0, _, _, _ => .error .tooManyAliases
  | fuel + 1, context, tagged, state => do
    let (event, mark) ← document.eventAt state
    let next := { state with place := state.place + 1 }
    match event with
    | .aliasOf anchor =>
      let there ← document.follow anchor next
      let (node, after) ← document.build fuel context false there
      return (node, { next with aliases := after.aliases })
    | .scalar tag text style =>
      match (if tagged then none else localTag? tag) with
      | some name =>
        let (node, state) ← document.build fuel context true state
        return (.tagged name node, state)
      | none =>
        match scalarNode (if tagged then none else tag) text style with
        | .ok node => return (node, next)
        | .error error => throw (.value error mark context.path)
    | .sequenceStart tag =>
      match (if tagged then none else localTag? tag) with
      | some name =>
        let (node, state) ← document.build fuel context true state
        return (.tagged name node, state)
      | none =>
        if context.levels = 0 then throw (.tooDeep mark)
        else
          let inner := { context with levels := context.levels - 1 }
          let (items, state) ← document.buildItems fuel inner 0 next
          return (.sequence items, state)
    | .mappingStart tag =>
      match (if tagged then none else localTag? tag) with
      | some name =>
        let (node, state) ← document.build fuel context true state
        return (.tagged name node, state)
      | none =>
        if context.levels = 0 then throw (.tooDeep mark)
        else
          let inner := { context with levels := context.levels - 1 }
          let (entries, state) ← document.buildEntries fuel inner tagged mark [] next
          return (.mapping entries, state)
    | .sequenceEnd => throw .tooManyAliases
    | .mappingEnd => throw .tooManyAliases

def buildItems (document : DocumentEvents) :
    Nat → BuildContext → Nat → BuildState → Except DocumentError (List Node × BuildState)
  | 0, _, _, _ => .error .tooManyAliases
  | fuel + 1, context, index, state => do
    let (event, _) ← document.eventAt state
    match event with
    | .sequenceEnd => return ([], { state with place := state.place + 1 })
    | _ =>
      let inner := { context with path := context.path ++ [.item index] }
      let (item, state) ← document.build fuel inner false state
      let (rest, state) ← document.buildItems fuel context (index + 1) state
      return (item :: rest, state)

/-- Builds the entries of a mapping up to its end. A key that is there already is an error of the
whole mapping, which is reported before its value is looked at. -/
def buildEntries (document : DocumentEvents) :
    Nat → BuildContext → Bool → Mark → List (Node × Node) → BuildState →
      Except DocumentError (List (Node × Node) × BuildState)
  | 0, _, _, _, _, _ => .error .tooManyAliases
  | fuel + 1, context, tagged, mark, entries, state => do
    let (event, _) ← document.eventAt state
    match event with
    | .mappingEnd => return (entries, { state with place := state.place + 1 })
    | _ =>
      let (key, state) ← document.build fuel context tagged state
      match entries.find? fun entry => entry.1.same key with
      | some (present, _) => throw (.value (.duplicateKey present) mark context.path)
      | none =>
        let inner := { context with path := context.path ++ [stepOf event] }
        let (value, state) ← document.build fuel inner false state
        document.buildEntries fuel context tagged mark (entries ++ [(key, value)]) state

end

def root (document : DocumentEvents) : Except DocumentError Node := do
  let fuel := 140 * (document.events.size + 8)
  let (node, _) ← document.build fuel {} false {}
  match document.failure with
  | some error => throw error
  | none => return node

end DocumentEvents

def controlOffset? : Nat → List Char → Option Nat
  | _, [] => none
  | offset, c :: rest =>
    if isAllowed c then controlOffset? (offset + c.utf8Size) rest else some offset

def withoutByteOrderMark : List Char → List Char
  | '\ufeff' :: rest => rest
  | text => text

/-- The node that a text holds. There must be no second document; a text without any is null. -/
def readNode (text : String) : Except DocumentError Node := do
  match controlOffset? 0 text.toList with
  | some offset => throw (.controlCharacter offset)
  | none =>
    let characters := withoutByteOrderMark text.toList
    let (tokens, failure) := tokens characters
    let reader : EventReader := { tokens, failure }
    let fuel := 4 * tokens.length + 8
    let (document, ending) := DocumentEvents.read fuel reader [] {}
    match ending with
    | .stream _ => return .null
    | .failed => document.root
    | .document rest =>
      let node ← document.root
      match DocumentEvents.read fuel rest [] {} with
      | (_, .stream _) => return node
      | _ => throw .severalDocuments

def readMerged (text : String) : Except DocumentError Node := do
  let node ← readNode text
  match node.merge with
  | .ok node => return node
  | .error error => throw (.merge error)

end PipelineAdvisor.Yaml
