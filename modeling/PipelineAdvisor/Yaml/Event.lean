import PipelineAdvisor.Yaml.Token.Stream

/-!
Events: the structure of a document in a flat list, with anchors, tags and the place where each node
begins. `EventReader.next` turns tokens into events one at a time; what it expects next stands on a
stack of `Goal`s.
-/

namespace PipelineAdvisor.Yaml

inductive Event where
  | documentStart
  | documentEnd
  | streamEnd
  | aliasName (name : List Char)
  | scalar (anchor : Option (List Char)) (tag : Option (List Char)) (text : List Char)
      (style : ScalarStyle)
  | sequenceStart (anchor : Option (List Char)) (tag : Option (List Char))
  | sequenceEnd
  | mappingStart (anchor : Option (List Char)) (tag : Option (List Char))
  | mappingEnd
deriving DecidableEq

inductive Goal where
  | streamStart
  /-- A document; it may lack its opening mark if it is the first one. -/
  | document (first : Bool)
  | documentContent
  | documentEnd
  | blockNode
  | blockSequenceEntry (first : Bool)
  /-- An entry of a sequence that stands at the indentation of the mapping around it. -/
  | flushSequenceEntry
  | blockMappingKey (first : Bool)
  | blockMappingValue
  | flowSequenceEntry (first : Bool)
  /-- Key, value and end of a mapping with one entry that is an item of a flow sequence. -/
  | pairKey
  | pairValue
  | pairEnd
  | flowMappingKey (first : Bool)
  | flowMappingValue
  | flowMappingNoValue
deriving DecidableEq

/-- The state of reading events: tokens not yet used, the error behind them, the goal, the goals
behind it, and where the open collections began. -/
structure EventReader where
  tokens : List Token
  failure : Option SyntaxError
  goal : Goal := .streamStart
  later : List Goal := []
  opened : List Mark := []
  /-- Handles of tags and what they stand for. -/
  handles : List (List Char × List Char) := []

namespace EventReader

def peek (reader : EventReader) : Except SyntaxError Token :=
  match reader.tokens, reader.failure with
  | token :: _, _ => .ok token
  | [], some error => .error error
  | [], none => .error { problem := .missingDocumentStart, mark := {} }

def skip (reader : EventReader) : EventReader :=
  { reader with tokens := reader.tokens.drop 1 }

def finish (reader : EventReader) : EventReader :=
  match reader.later with
  | [] => { reader with goal := .document false }
  | goal :: rest => { reader with goal, later := rest }

def close (reader : EventReader) : EventReader :=
  { reader.finish with opened := reader.opened.drop 1 }

def enter (reader : EventReader) (mark : Mark) : EventReader :=
  { reader.skip with opened := mark :: reader.opened }

abbrev Step := Except SyntaxError (Event × Mark × EventReader)

def emptyScalar (mark : Mark) (reader : EventReader) : Step :=
  .ok (.scalar none none [] .plain, mark, reader)

def defaultHandles : List (List Char × List Char) :=
  [(['!'], ['!']), (['!', '!'], "tag:yaml.org,2002:".toList)]

structure Properties where
  anchor : Option (List Char) := none
  tag : Option (List Char × Option (List Char)) := none
  start : Mark
  tagMark : Mark := {}

def readProperties (reader : EventReader) : Except SyntaxError (Properties × EventReader) := do
  let first ← reader.peek
  match first.lexeme with
  | .anchor name =>
    let reader := reader.skip
    let second ← reader.peek
    match second.lexeme with
    | .tag handle suffix =>
      return ({ anchor := some name, tag := some (handle, suffix), start := first.start,
                tagMark := second.start }, reader.skip)
    | _ => return ({ anchor := some name, start := first.start }, reader)
  | .tag handle suffix =>
    let reader := reader.skip
    let second ← reader.peek
    match second.lexeme with
    | .anchor name =>
      return ({ anchor := some name, tag := some (handle, suffix), start := first.start,
                tagMark := first.start }, reader.skip)
    | _ => return ({ tag := some (handle, suffix), start := first.start,
                     tagMark := first.start }, reader)
  | _ => return ({ start := first.start }, reader)

/-- What a tag whose text is unreadable counts as: no tag if it is a local one, else a foreign one.
-/
def unreadableTag (value : List Char) : Option (List Char) :=
  if value.head? == some '!' then none else some "tag:".toList

def resolveTag (reader : EventReader) (properties : Properties) :
    Except SyntaxError (Option (List Char)) :=
  match properties.tag with
  | none => .ok none
  | some ([], suffix) => .ok (suffix.elim (unreadableTag []) some)
  | some (handle, suffix) =>
    match reader.handles.find? fun known => known.1 == handle with
    | none =>
      .error (.within .node properties.start .undefinedTagHandle properties.tagMark)
    | some (_, value) =>
      .ok (suffix.elim (unreadableTag value) fun suffix => some (value ++ suffix))

/-- Reads the start of a node. In a block it may be a block collection, and where `flush` is set a
sequence at the indentation of the mapping around it. -/
def readNode (inBlock flush : Bool) (reader : EventReader) : Step := do
  let token ← reader.peek
  match token.lexeme with
  | .aliasName name => return (.aliasName name, token.start, reader.finish.skip)
  | _ =>
    let (properties, reader) ← reader.readProperties
    let tag ← reader.resolveTag properties
    let token ← reader.peek
    let anchor := properties.anchor
    let mark := properties.start
    let block (lexeme : Lexeme) (event : Event) (goal : Goal) : Option Step :=
      if inBlock && token.lexeme = lexeme then some (.ok (event, mark, { reader with goal }))
      else none
    match token.lexeme with
    | .scalar text style =>
      return (.scalar anchor tag text style, mark, reader.finish.skip)
    | .flowSequenceStart =>
      return (.sequenceStart anchor tag, mark, { reader with goal := .flowSequenceEntry true })
    | .flowMappingStart =>
      return (.mappingStart anchor tag, mark, { reader with goal := .flowMappingKey true })
    | _ =>
      if flush && token.lexeme = .blockEntry then
        return (.sequenceStart anchor tag, mark, { reader with goal := .flushSequenceEntry })
      else
        match block .blockSequenceStart (.sequenceStart anchor tag) (.blockSequenceEntry true),
            block .blockMappingStart (.mappingStart anchor tag) (.blockMappingKey true) with
        | some step, _ => step
        | none, some step => step
        | none, none =>
          if anchor.isSome || properties.tag.isSome then
            return (.scalar anchor tag [] .plain, mark, reader.finish)
          else
            let construct := if inBlock then Construct.blockNode else .flowNode
            .error (.within construct mark .missingContent token.start)

def readNodeThen (inBlock flush : Bool) (goal : Goal) (reader : EventReader) : Step :=
  { reader with later := goal :: reader.later }.readNode inBlock flush

def readDirectives : Nat → Bool → EventReader → Except SyntaxError EventReader
  | 0, _, reader => .ok reader
  | fuel + 1, versioned, reader => do
    let token ← reader.peek
    match token.lexeme with
    | .versionDirective major minor =>
      if versioned then .error { problem := .duplicateVersion, mark := token.start }
      else if major = 1 ∧ (minor = 1 ∨ minor = 2) then readDirectives fuel true reader.skip
      else .error { problem := .incompatibleVersion, mark := token.start }
    | .tagDirective handle value =>
      if reader.handles.any fun known => known.1 == handle then
        .error { problem := .duplicateTagDirective, mark := token.start }
      else
        readDirectives fuel versioned
          { reader with handles := reader.handles ++ [(handle, value)] }.skip
    | _ =>
      let missing := defaultHandles.filter fun handle =>
        !(reader.handles.any fun known => known.1 == handle.1)
      return { reader with handles := reader.handles ++ missing }

def skipDocumentEnds : Nat → EventReader → Except SyntaxError EventReader
  | 0, reader => .ok reader
  | fuel + 1, reader => do
    let token ← reader.peek
    if token.lexeme = .documentEnd then skipDocumentEnds fuel reader.skip else return reader

def endsEmptyDocument : Lexeme → Bool
  | .versionDirective _ _ => true
  | .tagDirective _ _ => true
  | .documentStart => true
  | .documentEnd => true
  | .streamEnd => true
  | _ => false

def startsBareDocument : Lexeme → Bool
  | .versionDirective _ _ => false
  | .tagDirective _ _ => false
  | .documentStart => false
  | .streamEnd => false
  | _ => true

def readDocument (first : Bool) (reader : EventReader) : Step := do
  let reader ← if first then pure reader else reader.skipDocumentEnds reader.tokens.length
  let token ← reader.peek
  if first && startsBareDocument token.lexeme then
    let reader ← reader.readDirectives 1 false
    return (.documentStart, token.start,
      { reader with goal := .blockNode, later := .documentEnd :: reader.later })
  else if token.lexeme = .streamEnd then
    return (.streamEnd, token.start, reader.skip)
  else
    let reader ← reader.readDirectives (reader.tokens.length + 1) false
    let mark ← reader.peek
    if mark.lexeme = .documentStart then
      return (.documentStart, token.start,
        { reader with goal := .documentContent, later := .documentEnd :: reader.later }.skip)
    else .error { problem := .missingDocumentStart, mark := mark.start }

def readBlockSequenceEntry (reader : EventReader) : Step := do
  let token ← reader.peek
  match token.lexeme with
  | .blockEntry =>
    let reader := { reader.skip with goal := .blockSequenceEntry false }
    let next ← reader.peek
    if next.lexeme = .blockEntry ∨ next.lexeme = .blockEnd then emptyScalar token.stop reader
    else reader.readNodeThen true false (.blockSequenceEntry false)
  | .blockEnd => return (.sequenceEnd, token.start, reader.close.skip)
  | _ =>
    .error (.within .blockCollection (reader.opened.headD {}) .missingHyphen token.start)

/-- Whether a token can only follow a key or a value that is left out. -/
def leavesOut (lexeme : Lexeme) : Bool :=
  lexeme = .key || lexeme = .value || lexeme = .blockEnd

def readFlushSequenceEntry (reader : EventReader) : Step := do
  let token ← reader.peek
  if token.lexeme = .blockEntry then
    let reader := { reader.skip with goal := .flushSequenceEntry }
    let next ← reader.peek
    if next.lexeme = .blockEntry ∨ leavesOut next.lexeme then emptyScalar token.stop reader
    else reader.readNodeThen true false .flushSequenceEntry
  else return (.sequenceEnd, token.start, reader.finish)

def readBlockMappingKey (reader : EventReader) : Step := do
  let token ← reader.peek
  match token.lexeme with
  | .key =>
    let reader := { reader.skip with goal := .blockMappingValue }
    let next ← reader.peek
    if leavesOut next.lexeme then emptyScalar token.stop reader
    else reader.readNodeThen true true .blockMappingValue
  | .blockEnd => return (.mappingEnd, token.start, reader.close.skip)
  | _ => .error (.within .blockMapping (reader.opened.headD {}) .missingKey token.start)

def readBlockMappingValue (reader : EventReader) : Step := do
  let token ← reader.peek
  let reader := { reader with goal := .blockMappingKey false }
  if token.lexeme = .value then
    let reader := reader.skip
    let next ← reader.peek
    if leavesOut next.lexeme then emptyScalar token.stop reader
    else reader.readNodeThen true true (.blockMappingKey false)
  else emptyScalar token.start reader

def skipComma (construct : Construct) (problem : Problem) (first : Bool) (reader : EventReader) :
    Except SyntaxError EventReader := do
  let token ← reader.peek
  if first then return reader
  else if token.lexeme = .flowEntry then return reader.skip
  else .error (.within construct (reader.opened.headD {}) problem token.start)

def readFlowSequenceEntry (first : Bool) (reader : EventReader) : Step := do
  let token ← reader.peek
  if token.lexeme = .flowSequenceEnd then
    return (.sequenceEnd, token.start, reader.close.skip)
  else
    let reader ← reader.skipComma .flowSequence .missingCommaOrBracket first
    let token ← reader.peek
    if token.lexeme = .key then
      return (.mappingStart none none, token.start, { reader.skip with goal := .pairKey })
    else if token.lexeme = .flowSequenceEnd then
      return (.sequenceEnd, token.start, reader.close.skip)
    else reader.readNodeThen false false (.flowSequenceEntry false)

/-- Reads the key of a pair in a flow sequence. A token that leaves the key out is used up. -/
def readPairKey (reader : EventReader) : Step := do
  let token ← reader.peek
  if token.lexeme = .value ∨ token.lexeme = .flowEntry ∨ token.lexeme = .flowSequenceEnd then
    emptyScalar token.stop { reader.skip with goal := .pairValue }
  else reader.readNodeThen false false .pairValue

def readPairValue (reader : EventReader) : Step := do
  let token ← reader.peek
  let reader := { reader with goal := .pairEnd }
  if token.lexeme = .value then
    let reader := reader.skip
    let next ← reader.peek
    if next.lexeme = .flowEntry ∨ next.lexeme = .flowSequenceEnd then
      emptyScalar next.start reader
    else reader.readNodeThen false false .pairEnd
  else emptyScalar token.start reader

def readFlowMappingKey (first : Bool) (reader : EventReader) : Step := do
  let token ← reader.peek
  if token.lexeme = .flowMappingEnd then
    return (.mappingEnd, token.start, reader.close.skip)
  else
    let reader ← reader.skipComma .flowMapping .missingCommaOrBrace first
    let token ← reader.peek
    if token.lexeme = .key then
      let reader := { reader.skip with goal := .flowMappingValue }
      let next ← reader.peek
      if next.lexeme = .value ∨ next.lexeme = .flowEntry ∨ next.lexeme = .flowMappingEnd then
        emptyScalar next.start reader
      else reader.readNodeThen false false .flowMappingValue
    else if token.lexeme = .flowMappingEnd then
      return (.mappingEnd, token.start, reader.close.skip)
    else reader.readNodeThen false false .flowMappingNoValue

def readFlowMappingValue (reader : EventReader) : Step := do
  let token ← reader.peek
  let reader := { reader with goal := .flowMappingKey false }
  if token.lexeme = .value then
    let reader := reader.skip
    let next ← reader.peek
    if next.lexeme = .flowEntry ∨ next.lexeme = .flowMappingEnd then emptyScalar next.start reader
    else reader.readNodeThen false false (.flowMappingKey false)
  else emptyScalar token.start reader

def next (reader : EventReader) : Step := do
  let token ← reader.peek
  match reader.goal with
  | .streamStart => reader.skip.readDocument true
  | .document first => reader.readDocument first
  | .documentContent =>
    if endsEmptyDocument token.lexeme then emptyScalar token.start reader.finish
    else reader.readNode true false
  | .documentEnd =>
    let reader := { reader with goal := .document false, handles := [] }
    return (.documentEnd, token.start,
      if token.lexeme = .documentEnd then reader.skip else reader)
  | .blockNode => reader.readNode true false
  | .blockSequenceEntry true => (reader.enter token.start).readBlockSequenceEntry
  | .blockSequenceEntry false => reader.readBlockSequenceEntry
  | .flushSequenceEntry => reader.readFlushSequenceEntry
  | .blockMappingKey true => (reader.enter token.start).readBlockMappingKey
  | .blockMappingKey false => reader.readBlockMappingKey
  | .blockMappingValue => reader.readBlockMappingValue
  | .flowSequenceEntry true => (reader.enter token.start).readFlowSequenceEntry true
  | .flowSequenceEntry false => reader.readFlowSequenceEntry false
  | .pairKey => reader.readPairKey
  | .pairValue => reader.readPairValue
  | .pairEnd => return (.mappingEnd, token.start, { reader with goal := .flowSequenceEntry false })
  | .flowMappingKey true => (reader.enter token.start).readFlowMappingKey true
  | .flowMappingKey false => reader.readFlowMappingKey false
  | .flowMappingValue => reader.readFlowMappingValue
  | .flowMappingNoValue => emptyScalar token.start { reader with goal := .flowMappingKey false }

end EventReader

end PipelineAdvisor.Yaml
