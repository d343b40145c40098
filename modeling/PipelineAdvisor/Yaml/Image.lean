import PipelineAdvisor.Yaml.Node
import PipelineAdvisor.Json.Printer

/-!
The image of a node as plain data: a tag becomes an object with one member, numbers and truth values
as keys become strings, and numbers that are not finite become null. A node with a key of any other
shape has no image.
-/

namespace PipelineAdvisor.Yaml.Node

def memberName? : Node → Option String
  | .string text => some text
  | .bool value => some (if value then "true" else "false")
  | .number (.integer value) => some (String.ofList (Json.integerText value))
  | .number (.float value) =>
    if value.isFinite then some (String.ofList (Json.floatLayout.render value)) else none
  | _ => none

def numberImage : Number → Json
  | .integer value => .integer value
  | .float value => if value.isFinite then .float value else .null

mutual

def image? : Node → Option Json
  | .null => some .null
  | .bool value => some (.bool value)
  | .number value => some (numberImage value)
  | .string text => some (.string text)
  | .sequence items => (imageItems? items).map .array
  | .mapping entries => (imageMembers? entries).map .object
  | .tagged tag content => (image? content).map fun value => .object [("!" ++ tag, value)]

def imageItems? : List Node → Option (List Json)
  | [] => some []
  | item :: rest => do
    let item ← image? item
    let rest ← imageItems? rest
    return item :: rest

def imageMembers? : List (Node × Node) → Option (List (String × Json))
  | [] => some []
  | (key, value) :: rest => do
    let name ← memberName? key
    let value ← image? value
    let rest ← imageMembers? rest
    return (name, value) :: rest

end

end PipelineAdvisor.Yaml.Node
