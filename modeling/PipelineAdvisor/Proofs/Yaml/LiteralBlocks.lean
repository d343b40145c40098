import PipelineAdvisor.Proofs.Yaml.PlainScalars

/-!
Literal blocks read back: the lines of a block, all of them behind the same indentation, are read as
they are written.
-/

namespace PipelineAdvisor.Yaml.Scalar

/-- Lines that a literal block shows as they are: none is empty or begins with a blank. -/
def areLiteral (lines : List (List Char)) : Bool :=
  lines.all fun line => line.head?.elim false (!isSpaceOrBreak ·) && line.all (!isBreak ·)

def blockText (column : Nat) (lines : List (List Char)) : List Char :=
  lines.flatMap fun line => '\n' :: (spaces column ++ line)

def literalText (lines : List (List Char)) : List Char :=
  lines.flatMap (· ++ ['\n'])

section Literal

variable {start : Mark} {column fuel : Nat} {rest line : List Char} {cursor : Cursor}

theorem skipBreakIfAny_lineFeed (front : cursor.rest = '\n' :: rest) :
    cursor.skipBreakIfAny = cursor.skipBreak := by
  rw [Cursor.skipBreakIfAny, Cursor.holdsAt_zero, front]
  rfl

theorem readEmptyLines_spaces {limit : Option Nat} {widest : Nat}
    (front : cursor.rest = spaces column ++ rest) (solid : ∀ c ∈ rest.head?, isSpaceOrBreak c = false)
    (atStart : cursor.mark.column = 0) (within : limit.elim True (column ≤ ·)) :
    readEmptyLines start limit (fuel + 1) widest cursor =
      .ok ([], max widest column, cursor.skip column) := by
  have visible : ∀ c ∈ rest.head?, isSpaceOrTab c = false ∧ isBreak c = false := by
    intro c known
    simpa [isSpaceOrBreak] using solid c known
  have run : cursor.run (· == ' ') = spaces column := by
    rw [Cursor.run, front]
    apply takeWhile_run
    · simp [spaces]
    · intro c known
      have noSpace := (visible c known).1
      rw [isSpaceOrTab, Bool.or_eq_false_iff] at noSpace
      exact noSpace.1
  have width : (spaces column).length = column := List.length_replicate
  have behind : (cursor.skip column).rest = rest := skip_spaces front
  have noTab : (cursor.skip column).isAt '\t' = false := by
    rw [Cursor.isAt, Cursor.peek?, behind]
    cases rest with
    | nil => rfl
    | cons c others =>
        have noTab := (visible c rfl).1
        rw [isSpaceOrTab, Bool.or_eq_false_iff] at noTab
        simpa using noTab.2
  have noBreak : (cursor.skip column).holdsAt 0 isBreak = false := by
    rw [Cursor.holdsAt_zero, behind]
    cases rest with
    | nil => rfl
    | cons c others => exact (visible c rfl).2
  have reached : (cursor.skip column).mark.column = column := by
    simp [atStart]
  cases limit with
  | none =>
      simp only [readEmptyLines, run, width, noTab, noBreak, Bool.and_false, Bool.false_eq_true,
        if_false, reached]
      rfl
  | some limit =>
      have taken : min column (limit - cursor.mark.column) = column := by
        rw [atStart]
        exact Nat.min_eq_left within
      simp only [readEmptyLines, run, width, taken, noTab, noBreak, Bool.and_false,
        Bool.false_eq_true, if_false, reached]
      rfl

theorem blockLines_line {indent : Nat} (noBreak : ∀ c ∈ line, isBreak c = false)
    (filled : line ≠ []) (front : cursor.rest = line ++ '\n' :: (spaces column ++ rest))
    (solid : ∀ c ∈ rest.head?, isSpaceOrBreak c = false) (inside : cursor.mark.column = indent)
    (within : column ≤ indent) (lines : BlockLines) :
    blockLines false indent start (fuel + 1) lines cursor =
      blockLines false indent start fuel (lines.add false line ['\n'] [])
        ((cursor.skip line.length).skipBreak.skip column) := by
  have run : cursor.run (!isBreak ·) = line := by
    rw [Cursor.run, front]
    apply takeWhile_run
    · simpa using noBreak
    · simp [isBreak]
  have behind : (cursor.skip line.length).rest = '\n' :: (spaces column ++ rest) := by
    simp [front]
  have lineFeed : (cursor.skip line.length).breakText = ['\n'] := by
    rw [Cursor.breakText, behind]
    rfl
  have empty : readEmptyLines start (some indent)
      ((cursor.skip line.length).skipBreak.rest.length + 1) 0 (cursor.skip line.length).skipBreak =
      .ok ([], max 0 column, (cursor.skip line.length).skipBreak.skip column) :=
    readEmptyLines_spaces (skipBreak_lineFeed behind) solid rfl within
  have filledRest : cursor.atEnd = false := by
    rw [Cursor.atEnd, front]
    cases line with
    | nil => exact absurd rfl filled
    | cons c others => rfl
  simp only [blockLines, inside, beq_self_eq_true, filledRest, Bool.not_false, Bool.and_self, if_true,
    run, lineFeed, skipBreakIfAny_lineFeed behind, empty, ok_bind]

theorem length_le_blockText (indent : Nat) (lines : List (List Char)) :
    lines.length ≤ (blockText indent lines).length := by
  induction lines with
  | nil => exact Nat.zero_le _
  | cons line rest ih =>
      simp only [blockText, List.flatMap_cons, List.length_append, List.length_cons] at ih ⊢
      omega

theorem literal_cons {lines : List (List Char)} (literal : areLiteral (line :: lines) = true) :
    (∃ c others, line = c :: others ∧ isSpaceOrBreak c = false) ∧ (∀ c ∈ line, isBreak c = false) ∧
      areLiteral lines = true := by
  simp only [areLiteral, List.all_cons, Bool.and_eq_true, List.all_eq_true, Bool.not_eq_true']
    at literal
  obtain ⟨⟨solid, noBreak⟩, others⟩ := literal
  cases line with
  | nil => simp at solid
  | cons c rest =>
      exact ⟨⟨c, rest, rfl, by simpa using solid⟩, noBreak, by simpa [areLiteral] using others⟩

theorem BlockLines.add_text {before : BlockLines} (empty : before.emptyLines = [])
    (line lineBreak : List Char) :
    (before.add false line lineBreak []).text ++ (before.add false line lineBreak []).lastBreak =
      before.text ++ before.lastBreak ++ (line ++ lineBreak) := by
  simp [BlockLines.add, empty]

theorem blockLines_text {indent : Nat} (start : Mark)
    (solid : ∀ c ∈ rest.head?, isSpaceOrBreak c = false) (left : column < indent) :
    ∀ {lines : List (List Char)} {line : List Char}, areLiteral (line :: lines) = true →
      ∀ {fuel : Nat} {cursor : Cursor}, lines.length < fuel →
      cursor.rest = line ++ (blockText indent lines ++ '\n' :: (spaces column ++ rest)) →
      cursor.mark.column = indent → ∀ {before : BlockLines}, before.emptyLines = [] →
      ∃ found after, blockLines false indent start fuel before cursor = .ok (found, after) ∧
        found.text ++ found.lastBreak =
          before.text ++ before.lastBreak ++ literalText (line :: lines) ∧
        after.rest = rest ∧ after.mark.column = column ∧ after.Counted
  | [], line, literal, fuel + 1, cursor, _, front, inside, before, empty => by
      obtain ⟨⟨c, others, rfl, _⟩, noBreak, _⟩ := literal_cons literal
      have behind : (cursor.skip (c :: others).length).rest = '\n' :: (spaces column ++ rest) := by
        simp [front, blockText]
      have ended (fuel : Nat) (found : BlockLines) : blockLines false indent start fuel found
          ((cursor.skip (c :: others).length).skipBreak.skip column) =
          .ok (found, (cursor.skip (c :: others).length).skipBreak.skip column) := by
        cases fuel with
        | zero => rfl
        | succ fuel => simp [blockLines, Cursor.skipBreak, left.ne]
      refine ⟨before.add false (c :: others) ['\n'] [],
        (cursor.skip (c :: others).length).skipBreak.skip column,
        (blockLines_line noBreak (List.cons_ne_nil c others) front solid inside left.le before).trans
          (ended fuel _), ?_, ?_, ?_, (Cursor.counted_skipBreak _).skip column⟩
      · simp [BlockLines.add_text empty, literalText]
      · exact nextLine_rest behind
      · exact nextLine_column _ column
  | next :: lines, line, literal, fuel + 1, cursor, enough, front, inside, before, empty => by
      obtain ⟨⟨c, others, rfl, _⟩, noBreak, later⟩ := literal_cons literal
      obtain ⟨⟨d, more, rfl, visible⟩, _⟩ := literal_cons later
      have front : cursor.rest = c :: others ++ '\n' :: (spaces indent ++
          (d :: more ++ (blockText indent lines ++ '\n' :: (spaces column ++ rest)))) := by
        simpa [blockText] using front
      have there : ((cursor.skip (c :: others).length).skipBreak.skip indent).rest =
          d :: more ++ (blockText indent lines ++ '\n' :: (spaces column ++ rest)) :=
        nextLine_rest (by simp [front])
      have added : (before.add false (c :: others) ['\n'] []).emptyLines = [] := rfl
      obtain ⟨found, after, read, text, rest_eq⟩ := blockLines_text start solid left later
        (Nat.lt_of_succ_lt_succ enough) there (nextLine_column _ indent) added
      refine ⟨found, after, (blockLines_line noBreak (List.cons_ne_nil c others) front
        (by simpa using visible) inside le_rfl before).trans read, ?_, rest_eq⟩
      rw [text, BlockLines.add_text empty]
      simp [literalText]

theorem readBlockHeader_lineFeed (front : cursor.rest = '\n' :: rest) :
    readBlockHeader start cursor = .ok (.clip, none, cursor) := by
  have notDigit : Char.isDigit '\n' = false := rfl
  simp [readBlockHeader, readChomping?, readIndentation, Cursor.isAt, Cursor.peek?, front, notDigit]
  rfl

theorem readBlock_text {indent : Nat} {parent : Int} {lines : List (List Char)} (filled : lines ≠ [])
    (literal : areLiteral lines = true)
    (front : cursor.rest = '|' :: (blockText indent lines ++ '\n' :: (spaces column ++ rest)))
    (solid : ∀ c ∈ rest.head?, isSpaceOrBreak c = false) (left : column < indent)
    (inside : parent < indent) :
    ∃ after, readBlock false parent cursor = .ok (literalText lines, after) ∧
      after.rest = rest ∧ after.mark.column = column ∧ after.Counted := by
  cases lines with
  | nil => exact absurd rfl filled
  | cons line lines =>
      obtain ⟨⟨c, others, rfl, visible⟩, _⟩ := literal_cons literal
      have header : (cursor.skip 1).rest = '\n' :: (spaces indent ++
          (c :: others ++ (blockText indent lines ++ '\n' :: (spaces column ++ rest)))) := by
        simp [front, blockText]
      have noBlanks : (cursor.skip 1).skipRun isSpaceOrTab = cursor.skip 1 := by
        simp [Cursor.skipRun, Cursor.run, front, blockText, isSpaceOrTab]
      have noComment : (cursor.skip 1).skipComment = cursor.skip 1 := by
        rw [Cursor.skipComment, Cursor.isAt, Cursor.peek?, header]
        rfl
      have lineEnd : (cursor.skip 1).atLineEnd = true := by
        rw [Cursor.atLineEnd, Cursor.holdsAt_zero, header]
        rfl
      have firstLine : readEmptyLines cursor.mark none ((cursor.skip 1).skipBreak.rest.length + 1) 0
          (cursor.skip 1).skipBreak = .ok ([], max 0 indent, (cursor.skip 1).skipBreak.skip indent) :=
        readEmptyLines_spaces (skipBreak_lineFeed header) (by simpa using visible) rfl trivial
      have widest : max (max (max 0 indent) (parent + 1).toNat) 1 = indent := by
        omega
      have there : ((cursor.skip 1).skipBreak.skip indent).rest =
          c :: others ++ (blockText indent lines ++ '\n' :: (spaces column ++ rest)) :=
        nextLine_rest header
      have enough : lines.length < ((cursor.skip 1).skipBreak.skip indent).rest.length + 1 := by
        have bound := length_le_blockText indent lines
        rw [there]
        simp
        omega
      have empty : (BlockLines.mk [] [] [] false).emptyLines = [] := rfl
      obtain ⟨found, after, read, collected, rest_eq⟩ :=
        blockLines_text cursor.mark solid left literal enough there (nextLine_column _ indent) empty
      refine ⟨after, ?_, rest_eq⟩
      simp only [readBlock, readBlockHeader_lineFeed header, ok_bind, noBlanks, noComment, lineEnd,
        Bool.not_true, Bool.false_eq_true, if_false, skipBreakIfAny_lineFeed header, Option.map_none,
        firstLine, Option.getD_none, widest, read, collected]
      simp only [List.nil_append]
      rfl

end Literal

end PipelineAdvisor.Yaml.Scalar
