import PipelineAdvisor.Text.Search

/-!
Paths as texts. A path is a root or a leading dot, if it has one, and pieces between slashes; empty
pieces and further dots do not count, and what a path means is not looked at.
-/

namespace PipelineAdvisor.FilePath

def pieces : List Char → List (List Char)
  | [] => [[]]
  | c :: rest =>
    if c = '/' then [] :: pieces rest
    else
      match pieces rest with
      | [] => [[c]]
      | piece :: others => (c :: piece) :: others

def join : List (List Char) → List Char
  | [] => []
  | [piece] => piece
  | piece :: next :: rest => piece ++ '/' :: join (next :: rest)

def isIdle (piece : List Char) : Bool :=
  piece.isEmpty || piece == ['.']

def dropIdle (parts : List (List Char)) : List (List Char) :=
  (parts.reverse.dropWhile isIdle).reverse

def splitStart (path : List Char) : List Char × List Char :=
  match path with
  | '/' :: rest => (['/'], rest)
  | ['.'] => (['.'], [])
  | '.' :: '/' :: rest => (['.'], '/' :: rest)
  | path => ([], path)

/-- The path without its last piece. The root and the empty path have none. -/
def parent? (path : String) : Option String :=
  let (start, body) := splitStart path.toList
  let parts := dropIdle (pieces body)
  if parts.isEmpty then (if start = ['.'] then some "" else none)
  else some (String.ofList (start ++ join (dropIdle parts.dropLast)))

def upward : Nat → String → List String
  | 0, _ => []
  | count + 1, path => path :: (parent? path).elim [] (upward count)

def inside (directory name : String) : String :=
  if directory.endsWith "/" || directory.isEmpty then directory ++ name
  else directory ++ "/" ++ name

end PipelineAdvisor.FilePath
