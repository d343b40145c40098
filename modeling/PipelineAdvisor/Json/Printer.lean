import PipelineAdvisor.Json.Basic

/-!
Two written forms of a value: `compact` without any space, and `pretty` with one member or item a
line and two spaces per level.
-/

namespace PipelineAdvisor.Json

mutual

def compact : Json → List Char
  | .null => "null".toList
  | .bool value => if value then "true".toList else "false".toList
  | .integer value => integerText value
  | .float value => floatLayout.render value
  | .string value => stringText value
  | .array items => '[' :: compactItems items
  | .object members => '{' :: compactMembers members

def compactItems : List Json → List Char
  | [] => [']']
  | [item] => compact item ++ [']']
  | item :: next :: rest => compact item ++ ',' :: compactItems (next :: rest)

def compactMembers : List (String × Json) → List Char
  | [] => ['}']
  | [(name, value)] => stringText name ++ ':' :: compact value ++ ['}']
  | (name, value) :: next :: rest =>
    stringText name ++ ':' :: compact value ++ ',' :: compactMembers (next :: rest)

end

def newLine (level : Nat) : List Char :=
  '\n' :: List.replicate (2 * level) ' '

mutual

def prettyAt (level : Nat) : Json → List Char
  | .null => "null".toList
  | .bool value => if value then "true".toList else "false".toList
  | .integer value => integerText value
  | .float value => floatLayout.render value
  | .string value => stringText value
  | .array [] => ['[', ']']
  | .array (item :: rest) => '[' :: prettyItems level (item :: rest)
  | .object [] => ['{', '}']
  | .object (member :: rest) => '{' :: prettyMembers level (member :: rest)

def prettyItems (level : Nat) : List Json → List Char
  | [] => [']']
  | [item] => newLine (level + 1) ++ prettyAt (level + 1) item ++ newLine level ++ [']']
  | item :: next :: rest =>
    newLine (level + 1) ++ prettyAt (level + 1) item ++ ',' :: prettyItems level (next :: rest)

def prettyMembers (level : Nat) : List (String × Json) → List Char
  | [] => ['}']
  | [(name, value)] =>
    newLine (level + 1) ++ stringText name ++ ':' :: ' ' :: prettyAt (level + 1) value ++
      newLine level ++ ['}']
  | (name, value) :: next :: rest =>
    newLine (level + 1) ++ stringText name ++ ':' :: ' ' :: prettyAt (level + 1) value ++
      ',' :: prettyMembers level (next :: rest)

end

def pretty (value : Json) : List Char :=
  prettyAt 0 value

end PipelineAdvisor.Json
