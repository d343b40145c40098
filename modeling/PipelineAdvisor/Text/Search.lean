import PipelineAdvisor.Text.Character

/-!
Searching and cutting texts, on lists of characters. `occursIn` looks for an unbroken run, `lines`
cuts at line feeds, `trim` removes blanks from both ends.
-/

namespace PipelineAdvisor.Text

def occursIn (needle : List Char) : List Char → Bool
  | [] => needle.isEmpty
  | c :: rest => needle.isPrefixOf (c :: rest) || occursIn needle rest

def contains (text needle : String) : Bool :=
  occursIn needle.toList text.toList

def lowerAscii (text : List Char) : List Char :=
  text.map Char.toLower

/-- The lines of a text. A carriage return right before a line feed belongs to the line end, and
what follows the last line feed is a line only if it is not empty. -/
def lines : List Char → List (List Char)
  | [] => []
  | '\n' :: rest => [] :: lines rest
  | '\r' :: '\n' :: rest => [] :: lines rest
  | c :: rest =>
    match lines rest with
    | [] => [[c]]
    | line :: others => (c :: line) :: others

def trimEnd (text : List Char) : List Char :=
  (text.reverse.dropWhile isBlank).reverse

def trim (text : List Char) : List Char :=
  trimEnd (text.dropWhile isBlank)

def before (mark : Char) (text : List Char) : List Char :=
  text.takeWhile (· != mark)

end PipelineAdvisor.Text
