import PipelineAdvisor.Toml.Error

/-!
Tokens of a settings document. Every text falls apart into tokens without a gap: what is no mark,
blank, line end, comment or quoted string is an atom.
-/

namespace PipelineAdvisor.Toml

inductive TokenKind where
  | dot
  | equals
  | comma
  | leftBracket
  | rightBracket
  | leftBrace
  | rightBrace
  | blank
  | lineEnd
  | comment
  | quoted (quoting : Quoting)
  | atom
  | finish
deriving DecidableEq

structure Token where
  kind : TokenKind
  start : Nat
  text : List Char

def Token.extent (token : Token) : Extent :=
  ⟨token.start, token.start + byteLength token.text⟩

namespace Token

def isBlank (c : Char) : Bool :=
  c == ' ' || c == '\t'

/-- Characters that end an atom. Quotes do not, since the opening one may have been forgotten. -/
def endsAtom (c : Char) : Bool :=
  ['.', '=', ',', '[', ']', '{', '}', '#', ' ', '\t', '\r', '\n'].contains c

/-- The length of a quoted string in one line: up to its closing quote, or to the line end or the
end of the text if there is none. -/
def quotedLength (mark : Char) (escapes : Bool) : List Char → Nat
  | [] => 0
  | '\n' :: _ => 0
  | '\\' :: next :: rest =>
    if escapes && (next == '\\' || next == '"') then 2 + quotedLength mark escapes rest
    else 1 + quotedLength mark escapes (next :: rest)
  | c :: rest => if c == mark then 1 else 1 + quotedLength mark escapes rest

/-- The length of a quoted string over several lines: up to three quotes, with at most two more
right behind them. -/
def longQuotedLength (mark : Char) (escapes : Bool) : List Char → Nat
  | [] => 0
  | '\\' :: next :: rest =>
    if escapes && (next == '\\' || next == '"') then 2 + longQuotedLength mark escapes rest
    else 1 + longQuotedLength mark escapes (next :: rest)
  | c :: rest =>
    if c == mark && [mark, mark].isPrefixOf rest then
      3 + ((rest.drop 2).take 2 |>.takeWhile (· == mark)).length
    else 1 + longQuotedLength mark escapes rest

def shape (first : Char) (rest : List Char) : TokenKind × Nat :=
  match first with
  | '.' => (.dot, 1)
  | '=' => (.equals, 1)
  | ',' => (.comma, 1)
  | '[' => (.leftBracket, 1)
  | ']' => (.rightBracket, 1)
  | '{' => (.leftBrace, 1)
  | '}' => (.rightBrace, 1)
  | ' ' | '\t' => (.blank, 1 + (rest.takeWhile isBlank).length)
  | '#' => (.comment, 1 + (rest.takeWhile fun c => c != '\r' && c != '\n').length)
  | '\n' => (.lineEnd, 1)
  | '\r' => (.lineEnd, if rest.head? == some '\n' then 2 else 1)
  | '\'' =>
    if ['\'', '\''].isPrefixOf rest then
      (.quoted .longLiteral, 3 + longQuotedLength '\'' false (rest.drop 2))
    else (.quoted .literal, 1 + quotedLength '\'' false rest)
  | '"' =>
    if ['"', '"'].isPrefixOf rest then
      (.quoted .longBasic, 3 + longQuotedLength '"' true (rest.drop 2))
    else (.quoted .basic, 1 + quotedLength '"' true rest)
  | _ => (.atom, 1 + (rest.takeWhile fun c => !endsAtom c).length)

def readFrom : Nat → Nat → List Char → List Token
  | _, start, [] => [⟨.finish, start, []⟩]
  | 0, start, _ => [⟨.finish, start, []⟩]
  | fuel + 1, start, c :: rest =>
    let (kind, length) := shape c rest
    let text := (c :: rest).take length
    ⟨kind, start, text⟩ :: readFrom fuel (start + byteLength text) ((c :: rest).drop length)

def ofText (text : List Char) : List Token :=
  match text with
  | '\uFEFF' :: rest => readFrom rest.length 3 rest
  | text => readFrom text.length 0 text

end Token

end PipelineAdvisor.Toml
