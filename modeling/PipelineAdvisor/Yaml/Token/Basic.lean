import PipelineAdvisor.Yaml.Error

/-!
Tokens of a document: indicators, names, tags and scalars, and the starts and ends of block
collections, which have no character of their own.
-/

namespace PipelineAdvisor.Yaml

inductive ScalarStyle where
  | plain
  | singleQuoted
  | doubleQuoted
  | literal
  | folded
deriving DecidableEq

inductive Lexeme where
  | streamStart
  | streamEnd
  | versionDirective (major minor : Nat)
  | tagDirective (handle value : List Char)
  | documentStart
  | documentEnd
  | blockSequenceStart
  | blockMappingStart
  | blockEnd
  | flowSequenceStart
  | flowSequenceEnd
  | flowMappingStart
  | flowMappingEnd
  | blockEntry
  | flowEntry
  | key
  | value
  | aliasName (name : List Char)
  | anchor (name : List Char)
  /-- A tag with its handle; the text after it is missing if its escapes are no characters. -/
  | tag (handle : List Char) (suffix : Option (List Char))
  | scalar (text : List Char) (style : ScalarStyle)
deriving DecidableEq

structure Token where
  lexeme : Lexeme
  start : Mark
  stop : Mark
deriving DecidableEq

end PipelineAdvisor.Yaml
