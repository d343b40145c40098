import PipelineAdvisor.Number.Decimal

/-!
Nodes of a document. Mappings keep the order of their entries and may have keys of any shape. A tag
is a node of its own around what it marks; `bare` looks through tags, and so do all look-ups here.
-/

namespace PipelineAdvisor.Yaml

inductive Node where
  | null
  | bool (value : Bool)
  | number (value : Number)
  | string (text : String)
  | sequence (items : List Node)
  | mapping (entries : List (Node × Node))
  | tagged (tag : String) (content : Node)
deriving Inhabited

namespace Node

def bare : Node → Node
  | .tagged _ content => bare content
  | node => node

def asString? (node : Node) : Option String :=
  match node.bare with
  | .string text => some text
  | _ => none

def asBool? (node : Node) : Option Bool :=
  match node.bare with
  | .bool value => some value
  | _ => none

def asNat? (node : Node) : Option Nat :=
  match node.bare with
  | .number value => value.toNat?
  | _ => none

def asSequence? (node : Node) : Option (List Node) :=
  match node.bare with
  | .sequence items => some items
  | _ => none

def asMapping? (node : Node) : Option (List (Node × Node)) :=
  match node.bare with
  | .mapping entries => some entries
  | _ => none

def isString (text : String) : Node → Bool
  | .string other => other == text
  | _ => false

def lookup? (key : String) (entries : List (Node × Node)) : Option Node :=
  (entries.find? fun entry => entry.1.isString key).map (·.2)

def get? (node : Node) (key : String) : Option Node :=
  node.asMapping?.bind (lookup? key)

mutual

/-- Equality of keys: tags count, the order of entries does not, and numbers are compared as
numbers. -/
def same : Node → Node → Bool
  | .null, .null => true
  | .bool a, .bool b => a == b
  | .number a, .number b => a.same b
  | .string a, .string b => a == b
  | .sequence a, .sequence b => sameItems a b
  | .mapping a, .mapping b => a.length == b.length && sameEntries a b
  | .tagged s a, .tagged t b => s == t && same a b
  | _, _ => false

def sameItems : List Node → List Node → Bool
  | [], [] => true
  | a :: as, b :: bs => same a b && sameItems as bs
  | _, _ => false

def sameEntries : List (Node × Node) → List (Node × Node) → Bool
  | [], _ => true
  | (key, value) :: rest, others =>
    others.any (fun other => same key other.1 && same value other.2) && sameEntries rest others

end

mutual

def depth : Node → Nat
  | .sequence items => depthItems items + 1
  | .mapping entries => depthEntries entries + 1
  | .tagged _ content => depth content + 1
  | _ => 0

def depthItems : List Node → Nat
  | [] => 0
  | item :: rest => max (depth item) (depthItems rest)

def depthEntries : List (Node × Node) → Nat
  | [] => 0
  | (key, value) :: rest => max (max (depth key) (depth value)) (depthEntries rest)

end

end Node

end PipelineAdvisor.Yaml
