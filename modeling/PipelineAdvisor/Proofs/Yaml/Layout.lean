import PipelineAdvisor.Proofs.Yaml.LiteralBlocks

/-!
Documents in block style: plain scalars, literal blocks, mappings with plain keys and sequences. A
collection inside another one stands two columns further right: on the line of its hyphen in a
sequence, on lines of its own in a mapping.
-/

namespace PipelineAdvisor.Yaml

/-- A document in block style. Collections have a first entry or item. -/
inductive Layout where
  | plain (text : String)
  | literal (lines : List String)
  | mapping (key : String) (value : Layout) (rest : List (String × Layout))
  | sequence (first : Layout) (rest : List Layout)

namespace Layout

def isScalar : Layout → Bool
  | .plain _ | .literal _ => true
  | .mapping _ _ _ | .sequence _ _ => false

def lead (column : Nat) (value : Layout) : List Char :=
  if value.isScalar then [' '] else '\n' :: Scalar.spaces column

mutual

def text (column : Nat) : Layout → List Char
  | .plain text => text.toList
  | .literal lines => '|' :: Scalar.blockText column (lines.map String.toList)
  | .mapping key value rest =>
    key.toList ++ ':' :: (value.lead (column + 2) ++ text (column + 2) value) ++ entriesText column rest
  | .sequence first rest => '-' :: ' ' :: text (column + 2) first ++ itemsText column rest

def entriesText (column : Nat) : List (String × Layout) → List Char
  | [] => []
  | (key, value) :: rest =>
    '\n' :: (Scalar.spaces column ++
      (key.toList ++ ':' :: (value.lead (column + 2) ++ text (column + 2) value))) ++
      entriesText column rest

def itemsText (column : Nat) : List Layout → List Char
  | [] => []
  | item :: rest =>
    '\n' :: (Scalar.spaces column ++ '-' :: ' ' :: text (column + 2) item) ++ itemsText column rest

end

mutual

def lexemes : Layout → List Lexeme
  | .plain text => [.scalar text.toList .plain]
  | .literal lines => [.scalar (Scalar.literalText (lines.map String.toList)) .literal]
  | .mapping key value rest =>
    .blockMappingStart :: .key :: .scalar key.toList .plain :: .value :: lexemes value ++
      entryLexemes rest ++ [.blockEnd]
  | .sequence first rest =>
    .blockSequenceStart :: .blockEntry :: lexemes first ++ itemLexemes rest ++ [.blockEnd]

def entryLexemes : List (String × Layout) → List Lexeme
  | [] => []
  | (key, value) :: rest =>
    .key :: .scalar key.toList .plain :: .value :: lexemes value ++ entryLexemes rest

def itemLexemes : List Layout → List Lexeme
  | [] => []
  | item :: rest => .blockEntry :: lexemes item ++ itemLexemes rest

end

def scalarNode (text : String) : Node :=
  match Scalar.resolve text with
  | .value node => node
  | .tooWide _ => .null

mutual

def node : Layout → Node
  | .plain text => scalarNode text
  | .literal lines => .string (String.ofList (Scalar.literalText (lines.map String.toList)))
  | .mapping key value rest => .mapping ((scalarNode key, node value) :: entryNodes rest)
  | .sequence first rest => .sequence (node first :: itemNodes rest)

def entryNodes : List (String × Layout) → List (Node × Node)
  | [] => []
  | (key, value) :: rest => (scalarNode key, node value) :: entryNodes rest

def itemNodes : List Layout → List Node
  | [] => []
  | item :: rest => node item :: itemNodes rest

end

end Layout

/-- Whether a text is read as itself when it stands plain, and not as a number, a truth value or
null. -/
def isWord (text : String) : Bool :=
  match Scalar.resolve text with
  | .value (.string _) => true
  | _ => false

/-- Whether a text in front of `next` stands for a value as it is. A whole number of more than 64 bits
does not. -/
def standsFor (next : Char) (text : String) : Bool :=
  standsPlain next text.toList && text.toList.all isAllowed &&
    match Scalar.resolve text with
    | .value _ => true
    | .tooWide _ => false

def standsAsKey (key : String) : Bool :=
  standsFor ':' key && decide (key.toList.length ≤ TokenReader.longestKey)

def standsAsValue (text : String) : Bool :=
  standsFor '\n' text

namespace Layout

def standsAt (column : Nat) (text : String) : Bool :=
  column != 0 || startsMargin text.toList

mutual

/-- Whether the scalars and keys of a layout at a column can stand there, and the keys of each mapping
are different. -/
def fits (column : Nat) : Layout → Bool
  | .plain text => standsAsValue text && standsAt column text
  | .literal lines =>
    !lines.isEmpty && Scalar.areLiteral (lines.map String.toList) &&
      lines.all fun line => line.toList.all isAllowed
  | .mapping key value rest =>
    standsAsKey key && standsAt column key && fits (column + 2) value && entriesFit column rest &&
      (key :: rest.map (·.1)).Pairwise fun first second =>
        (scalarNode first).same (scalarNode second) = false
  | .sequence first rest => fits (column + 2) first && itemsFit column rest

def entriesFit (column : Nat) : List (String × Layout) → Bool
  | [] => true
  | (key, value) :: rest =>
    standsAsKey key && standsAt column key && fits (column + 2) value && entriesFit column rest

def itemsFit (column : Nat) : List Layout → Bool
  | [] => true
  | item :: rest => fits (column + 2) item && itemsFit column rest

end

theorem fits_plain {column : Nat} {text : String} (stands : standsAsValue text = true)
    (margin : standsAt column text = true) : (plain text).fits column = true := by
  rw [fits, stands, margin]
  rfl

theorem fits_single {column : Nat} {key : String} {value : Layout} (stands : standsAsKey key = true)
    (margin : standsAt column key = true) (inside : value.fits (column + 2) = true) :
    (mapping key value []).fits column = true := by
  simp [fits, entriesFit, stands, margin, inside]

theorem fits_sequence {column : Nat} {first : Layout} {rest : List Layout}
    (here : first.fits (column + 2) = true) (others : ∀ item ∈ rest, item.fits (column + 2) = true) :
    (sequence first rest).fits column = true := by
  have items : ∀ {rest : List Layout}, (∀ item ∈ rest, item.fits (column + 2) = true) →
      itemsFit column rest = true := by
    intro rest
    induction rest with
    | nil => exact fun _ => rfl
    | cons item rest ih =>
        intro each
        obtain ⟨here, later⟩ := List.forall_mem_cons.mp each
        rw [itemsFit, here, ih later]
        rfl
  rw [fits, here, items others]
  rfl

mutual

/-- Whether a layout ends with a literal block, which needs a line behind it. -/
def endsLiteral : Layout → Bool
  | .plain _ => false
  | .literal _ => true
  | .mapping _ value rest => entriesEndLiteral (endsLiteral value) rest
  | .sequence first rest => itemsEndLiteral (endsLiteral first) rest

def entriesEndLiteral (before : Bool) : List (String × Layout) → Bool
  | [] => before
  | (_, value) :: rest => entriesEndLiteral (endsLiteral value) rest

def itemsEndLiteral (before : Bool) : List Layout → Bool
  | [] => before
  | item :: rest => itemsEndLiteral (endsLiteral item) rest

end

end Layout

end PipelineAdvisor.Yaml
