import PipelineAdvisor.Yaml.Error

/-!
A place of reading: the text that is left and the mark of its first character. Reading characters
moves the mark along the line, reading a line break moves it to the next line.
-/

namespace PipelineAdvisor.Yaml

structure Cursor where
  rest : List Char
  mark : Mark := {}
deriving Inhabited

namespace Cursor

def peek? (cursor : Cursor) : Option Char :=
  cursor.rest.head?

def peekAt? (cursor : Cursor) (offset : Nat) : Option Char :=
  (cursor.rest.drop offset).head?

def atEnd (cursor : Cursor) : Bool :=
  cursor.rest.isEmpty

def isAt (cursor : Cursor) (c : Char) : Bool :=
  cursor.peek? == some c

/-- Whether the character some places ahead passes a test; the end of the text does if `orEnd` is
set. -/
def holdsAt (cursor : Cursor) (offset : Nat) (test : Char → Bool) (orEnd : Bool := false) : Bool :=
  (cursor.peekAt? offset).elim orEnd test

def blankAt (cursor : Cursor) (offset : Nat) : Bool :=
  cursor.holdsAt offset isSpaceOrBreak true

def atLineEnd (cursor : Cursor) : Bool :=
  cursor.holdsAt 0 isBreak true

def skip (cursor : Cursor) (count : Nat := 1) : Cursor where
  rest := cursor.rest.drop count
  mark := { cursor.mark with
    index := cursor.mark.index + count
    column := cursor.mark.column + count }

def skipBreak (cursor : Cursor) : Cursor :=
  let width :=
    match cursor.rest with
    | '\r' :: '\n' :: _ => 2
    | _ => 1
  { rest := cursor.rest.drop width
    mark := { index := cursor.mark.index + width, line := cursor.mark.line + 1, column := 0 } }

/-- The text that the next line break stands for: itself for the two separators, a line feed for
every other one. Nothing if no line break is next. -/
def breakText (cursor : Cursor) : List Char :=
  match cursor.rest with
  | [] => []
  | c :: _ =>
    if c == '\u2028' || c == '\u2029' then [c] else if isBreak c then ['\n'] else []

def skipBreakIfAny (cursor : Cursor) : Cursor :=
  if cursor.holdsAt 0 isBreak then cursor.skipBreak else cursor

def run (cursor : Cursor) (test : Char → Bool) : List Char :=
  cursor.rest.takeWhile test

def skipRun (cursor : Cursor) (test : Char → Bool) : Cursor :=
  cursor.skip (cursor.run test).length

def skipComment (cursor : Cursor) : Cursor :=
  if cursor.isAt '#' then cursor.skipRun (!isBreak ·) else cursor

def atDocumentMark (cursor : Cursor) (c : Char) : Bool :=
  cursor.mark.column == 0 && [c, c, c].isPrefixOf cursor.rest && cursor.blankAt 3

end Cursor

end PipelineAdvisor.Yaml
