import PipelineAdvisor.Toml.Scalar

/-!
The value that a settings document holds. Headers and dotted keys open tables; a key is given a
value once, and a table is written in one way only: by a header, by dotted keys or inline.
-/

namespace PipelineAdvisor.Toml

inductive TableOrigin where
  /-- By a header of its own. -/
  | header
  /-- As a part of the path in some header. -/
  | headerPath
  /-- By dotted keys. -/
  | dotted
  | inline
deriving DecidableEq, Inhabited

structure Key where
  name : String
  extent : Extent
deriving DecidableEq, Inhabited

/-- A value. Items and entries carry the stretch of text where their value stands; entries are in
the order of their names. -/
inductive Value where
  | scalar (value : Scalar)
  | array (items : List (Extent × Value))
  /-- An array whose items are the tables of repeated headers. -/
  | tables (items : List (Extent × Value))
  | table (origin : TableOrigin) (entries : List (Key × Extent × Value))
deriving Inhabited

abbrev Entries := List (Key × Extent × Value)

namespace Value

def typeName : Value → String
  | .scalar (.string _) => "string"
  | .scalar (.integer _ _) => "integer"
  | .scalar (.float _) => "float"
  | .scalar (.boolean _) => "boolean"
  | .scalar .moment => "datetime"
  | .array _ => "array"
  | .tables _ => "array"
  | .table .inline _ => "inline table"
  | .table _ _ => "table"

end Value

namespace Entries

def find? (name : String) (entries : Entries) : Option (Extent × Value) :=
  (List.find? (fun (entry : Key × Extent × Value) => entry.1.name == name) entries).map (·.2)

def put (key : Key) (place : Extent) (value : Value) : Entries → Entries
  | [] => [(key, place, value)]
  | entry :: rest =>
    if entry.1.name == key.name then (entry.1, place, value) :: rest
    else if key.name < entry.1.name then (key, place, value) :: entry :: rest
    else entry :: put key place value rest

def erase (name : String) (entries : Entries) : Entries :=
  entries.filter fun entry => entry.1.name != name

end Entries

structure OpenTable where
  origin : TableOrigin := .header
  entries : Entries := []

/-- Changes the table at the end of a path. Tables that are missing on the way come about as
`origin` says; for an array of tables the path goes on in its last one. -/
def changeAt {α : Type} (origin : TableOrigin)
    (change : OpenTable → Except Complaint (OpenTable × α)) :
    List Key → OpenTable → Except Complaint (OpenTable × α)
  | [], table => change table
  | key :: path, table =>
    let descend (place : Extent) (rebuild : OpenTable → Value) (child : OpenTable) :
        Except Complaint (OpenTable × α) := do
      let (child, result) ← changeAt origin change path child
      return ({ table with entries := table.entries.put key place (rebuild child) }, result)
    let asTable (child : OpenTable) : Value := .table child.origin child.entries
    let refuse (found : Value) : Except Complaint (OpenTable × α) :=
      .error ((Problem.notExtensible found.typeName).at key.extent)
    match Entries.find? key.name table.entries with
    | none => descend key.extent asTable ⟨origin, []⟩
    | some (place, .table found entries) =>
      if found = .inline then refuse (.table found entries)
      else if origin = .dotted && found = .header then
        .error (Problem.duplicateKey.at key.extent)
      else descend place asTable ⟨found, entries⟩
    | some (place, .tables items) =>
      match items.getLast? with
      | some (last, .table found entries) =>
        descend place (fun child => .tables (items.dropLast ++ [(last, asTable child)]))
          ⟨found, entries⟩
      | _ => refuse (.tables items)
    | some (_, found) => refuse found

def assign (path : List Key) (key : Key) (place : Extent) (value : Value) (table : OpenTable) :
    Except Complaint OpenTable := do
  let (table, _) ← changeAt .dotted (fun (parent : OpenTable) =>
    if !path.isEmpty && parent.origin ≠ .dotted then
      .error (Problem.duplicateKey.at key.extent)
    else if path.isEmpty && parent.origin = .dotted then
      .error (Problem.duplicateKey.at key.extent)
    else if (Entries.find? key.name parent.entries).isSome then
      .error (Problem.duplicateKey.at key.extent)
    else .ok ({ parent with entries := parent.entries.put key place value }, ()))
    path table
  return table

def keysOf (path : List Written) : Except Complaint (Option (List Key × Key)) := do
  let keys ← path.mapM fun written => do return Key.mk (← written.key) written.extent
  return keys.getLast?.map fun last => (keys.dropLast, last)

def WrittenValue.value : WrittenValue → Except Complaint (Extent × Value)
  | .scalar written => do return (written.extent, .scalar (← written.scalar))
  | .array extent items => do return (extent, .array (← valuesOf items))
  | .table extent entries => do
    let filled ← fill entries ⟨.inline, []⟩
    return (extent, .table .inline filled.entries)
where
  valuesOf : List WrittenValue → Except Complaint (List (Extent × Value))
    | [] => .ok []
    | item :: rest => do return (← item.value) :: (← valuesOf rest)
  fill : List (List Written × WrittenValue) → OpenTable → Except Complaint OpenTable
    | [], filled => .ok filled
    | (path, written) :: rest, filled => do
      let keys ← keysOf path
      let (place, value) ← written.value
      match keys with
      | none => fill rest filled
      | some (path, key) => fill rest (← assign path key place value filled)

structure Reading where
  root : OpenTable := {}
  header : Option (Bool × Extent × List Key × Key) := none
  current : OpenTable := {}

namespace Reading

def close (reading : Reading) : Except Complaint OpenTable :=
  match reading.header with
  | none => .ok reading.current
  | some (ofArray, extent, path, key) => do
    let table : Value := .table reading.current.origin reading.current.entries
    let (root, _) ← changeAt .headerPath (fun (parent : OpenTable) =>
      let store (place : Extent) (value : Value) : Except Complaint (OpenTable × Unit) :=
        .ok ({ parent with entries := parent.entries.put key place value }, ())
      if !ofArray then store extent table
      else
        match Entries.find? key.name parent.entries with
        | none => store extent (.tables [(extent, table)])
        | some (place, .tables items) => store place (.tables (items ++ [(extent, table)]))
        | some _ => .error (Problem.duplicateKey.at key.extent))
      path reading.root
    return root

/-- Opens the table of a header. What stands there already counts only if it came about as a part of
paths in headers. -/
def openHeader (ofArray : Bool) (extent : Extent) (path : List Key) (key : Key)
    (root : OpenTable) : Except Complaint Reading := do
  let header := some (ofArray, extent, path, key)
  if ofArray then return { root, header }
  else
    let (root, current) ← changeAt .headerPath (fun (parent : OpenTable) =>
      let without : OpenTable := { parent with entries := Entries.erase key.name parent.entries }
      match Entries.find? key.name parent.entries with
      | none => .ok (parent, ({} : OpenTable))
      | some (_, .table .headerPath entries) => .ok (without, { entries })
      | some _ => .error (Problem.duplicateKey.at key.extent))
      path root
    return { root, header, current }

def step (reading : Reading) : Statement → Except Complaint Reading
  | .header ofArray extent path => do
    let root ← reading.close
    match ← keysOf path with
    | none => return { root }
    | some (path, key) => openHeader ofArray extent path key root
  | .assignment path value => do
    let keys ← keysOf path
    let (place, value) ← value.value
    match keys with
    | none => return reading
    | some (path, key) =>
      return { reading with current := ← assign path key place value reading.current }

end Reading

def readDocument (text : List Char) : Except Complaint Entries := do
  let statements ← Syntax.read text
  let reading ← statements.foldlM Reading.step {}
  return (← reading.close).entries

end PipelineAdvisor.Toml
