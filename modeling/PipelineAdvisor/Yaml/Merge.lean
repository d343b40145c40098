import PipelineAdvisor.Yaml.Node

/-!
Merge keys. An entry `<<` of a mapping brings in the entries of the mapping, or of the mappings in
the sequence, that is its value. Entries that a mapping has already win over those brought in, which
come after them. The last entry of the mapping takes the place of the removed `<<`.
-/

namespace PipelineAdvisor.Yaml

inductive MergeError where
  /-- The value of `<<` is no mapping and no sequence. -/
  | scalarValue
  /-- The sequence under `<<` holds something that is no mapping. -/
  | scalarItem
  | sequenceItem
  /-- The value of `<<`, or an item of it, has a tag. -/
  | taggedValue
deriving DecidableEq

def MergeError.message : MergeError → String
  | .scalarValue => "expected a mapping or list of mappings for merging, but found scalar"
  | .scalarItem => "expected a mapping for merging, but found scalar"
  | .sequenceItem => "expected a mapping for merging, but found sequence"
  | .taggedValue => "unexpected tagged value in merge"

namespace Node

def mergeKey : String := "<<"

/-- Takes the first entry with this string key out of a list; the last entry moves into its place.
-/
def takeMember? (key : String) : List (Node × Node) → Option (Node × List (Node × Node))
  | [] => none
  | entry :: rest =>
    if entry.1.isString key then
      some (entry.2,
        match rest.getLast? with
        | none => []
        | some last => last :: rest.dropLast)
    else (takeMember? key rest).map fun (value, rest) => (value, entry :: rest)

def insertNew (entries : List (Node × Node)) (entry : Node × Node) : List (Node × Node) :=
  if entries.any fun present => present.1.same entry.1 then entries else entries ++ [entry]

def broughtIn : Node → Except MergeError (List (Node × Node))
  | .mapping entries => .ok entries
  | .sequence items => itemEntries items
  | .tagged _ _ => .error .taggedValue
  | _ => .error .scalarValue
where
  /-- The entries of a sequence of mappings. -/
  itemEntries : List Node → Except MergeError (List (Node × Node))
    | [] => .ok []
    | .mapping entries :: rest => do
      let more ← itemEntries rest
      return entries ++ more
    | .sequence _ :: _ => .error .sequenceItem
    | .tagged _ _ :: _ => .error .taggedValue
    | _ :: _ => .error .scalarItem

def mergeEntries (entries : List (Node × Node)) : Except MergeError (List (Node × Node)) :=
  match takeMember? mergeKey entries with
  | none => .ok entries
  | some (value, rest) => do
    let more ← broughtIn value
    return more.foldl insertNew rest

/-- Applies merge keys in the last item first, so that of two faults the later one is reported. -/
def fromLast (apply : Node → Except MergeError Node) :
    List Node → Except MergeError (List Node)
  | [] => .ok []
  | item :: rest => do
    let rest ← fromLast apply rest
    let item ← apply item
    return item :: rest

def valuesFromLast (apply : Node → Except MergeError Node) :
    List (Node × Node) → Except MergeError (List (Node × Node))
  | [] => .ok []
  | (key, value) :: rest => do
    let rest ← valuesFromLast apply rest
    let value ← apply value
    return (key, value) :: rest

/-- Applies merge keys down to a number of levels. A mapping is merged before the values in it, and
keys are left alone. -/
def mergeWithin : Nat → Node → Except MergeError Node
  | 0, node => .ok node
  | levels + 1, .mapping entries => do
    let entries ← mergeEntries entries
    let entries ← valuesFromLast (mergeWithin levels) entries
    return .mapping entries
  | levels + 1, .sequence items => do
    let items ← fromLast (mergeWithin levels) items
    return .sequence items
  | levels + 1, .tagged tag content => do
    let content ← mergeWithin levels content
    return .tagged tag content
  | _ + 1, node => .ok node

def merge (node : Node) : Except MergeError Node :=
  mergeWithin node.depth node

end Node

end PipelineAdvisor.Yaml
