import Mathlib.Data.List.TakeWhile
import PipelineAdvisor.Proofs.Yaml.LiteralBlocks
import PipelineAdvisor.Proofs.Yaml.TokenQueue

/-!
Reading tokens of block collections one by one: scalars, keys with their colons, and hyphens. The
reader is inside collections whose columns it remembers; those that end where a line stands further
left are closed only when the next token is read.
-/

namespace PipelineAdvisor.Yaml.TokenReader

variable {reader : TokenReader}

/-! ### Open collections -/

/-- At this level the reader is inside a collection at `indent`, with `outer` around it: what is open
further right will be closed, and with these closings it has read these lexemes. -/
def Inside (reader : TokenReader) (level indent : Int) (outer : List Int) (lexemes : List Lexeme) :
    Prop :=
  indent ≤ level ∧ ∃ deeper, reader.indent :: reader.outerIndents = deeper ++ indent :: outer ∧
    (∀ column ∈ deeper, level < column) ∧
    reader.queue.map (·.lexeme) ++ List.replicate deeper.length .blockEnd = lexemes

theorem close_stays {level : Int} (stays : reader.indent ≤ level) (outers : List Int) :
    closeBlocks.close level reader outers = reader := by
  cases outers with
  | nil => rfl
  | cons outer rest => rw [closeBlocks.close, if_neg (Int.not_lt.mpr stays)]

theorem close_deeper {level indent : Int} {outer : List Int} (stays : indent ≤ level) :
    ∀ {deeper : List Int} {reader : TokenReader},
      reader.indent :: reader.outerIndents = deeper ++ indent :: outer →
      (∀ column ∈ deeper, level < column) →
      closeBlocks.close level reader reader.outerIndents = { reader with
        indent, outerIndents := outer
        queue := reader.queue ++
          List.replicate deeper.length ⟨.blockEnd, reader.cursor.mark, reader.cursor.mark⟩ }
  | [], reader, stack, _ => by
      obtain ⟨rfl, rfl⟩ := List.cons_eq_cons.mp stack
      rw [close_stays stays]
      simp
  | column :: deeper, reader, stack, right => by
      obtain ⟨here, rest⟩ := List.cons_eq_cons.mp stack
      have further : level < reader.indent := here ▸ right column List.mem_cons_self
      cases outers : reader.outerIndents with
      | nil =>
          rw [outers] at rest
          simp at rest
      | cons next others =>
          obtain ⟨closed, closing⟩ : ∃ closed : TokenReader, closed =
              { reader.push .blockEnd reader.cursor.mark with
                indent := next, outerIndents := others } := ⟨_, rfl⟩
          have stack : closed.indent :: closed.outerIndents = deeper ++ indent :: outer := by
            rw [closing]
            exact outers.symm.trans rest
          have later := close_deeper stays stack fun other known =>
            right other (List.mem_cons_of_mem _ known)
          rw [closing] at later
          rw [closeBlocks.close, if_pos further]
          refine later.trans ?_
          simp [push, List.replicate_succ]

theorem inFlow_of_outside (outside : reader.outerCandidates = []) : reader.inFlow = false := by
  rw [inFlow, outside]
  rfl

theorem Inside.closeBlocks {level indent : Int} {outer : List Int} {lexemes : List Lexeme}
    (inside : Inside reader level indent outer lexemes) (outside : reader.outerCandidates = []) :
    ∃ queue, reader.closeBlocks level = { reader with indent, outerIndents := outer, queue } ∧
      queue.map (·.lexeme) = lexemes := by
  obtain ⟨stays, deeper, stack, right, rfl⟩ := inside
  refine ⟨reader.queue ++
    List.replicate deeper.length ⟨.blockEnd, reader.cursor.mark, reader.cursor.mark⟩, ?_, by simp⟩
  rw [TokenReader.closeBlocks, inFlow_of_outside outside]
  exact close_deeper stays stack right

theorem Inside.leave {column indent : Int} {outer : List Int} {lexemes : List Lexeme}
    (inside : Inside reader column column (indent :: outer) lexemes) (left : indent < column) :
    Inside reader indent indent outer (lexemes ++ [.blockEnd]) := by
  obtain ⟨_, deeper, stack, right, rfl⟩ := inside
  refine ⟨Int.le_refl _, deeper ++ [column], by simp [stack], ?_, by simp [List.replicate_succ']⟩
  intro other known
  rcases List.mem_append.mp known with further | here
  · exact Int.lt_trans left (right other further)
  · rwa [List.mem_singleton.mp here]

/-! ### Finding the next token -/

/-- The reader stands in front of a text, outside of brackets, and nothing before has to be a key. -/
structure At (reader : TokenReader) (text : List Char) : Prop where
  started : reader.started = true
  outside : reader.outerCandidates = []
  free : ∀ key ∈ reader.candidate, key.required = false
  counted : reader.cursor.Counted
  rest : reader.cursor.rest = text

theorem dropStale_of_free (outside : reader.outerCandidates = [])
    (free : ∀ key ∈ reader.candidate, key.required = false) :
    ∃ candidate, (∀ key ∈ candidate, key.required = false) ∧
      reader.dropStale = .ok { reader with candidate } := by
  obtain ⟨kept, keptFree, fresh⟩ : ∃ kept : Option KeyCandidate,
      (∀ key ∈ kept, key.required = false) ∧
        keepFresh reader.cursor reader.candidate = .ok kept := by
    cases found : reader.candidate with
    | none => exact ⟨none, by simp, rfl⟩
    | some key =>
        have optional := free key found
        cases stale : isStale reader.cursor key with
        | true => exact ⟨none, by simp, by simp [keepFresh, stale, optional]⟩
        | false => exact ⟨some key, by simpa using optional, by simp [keepFresh, stale]⟩
  refine ⟨kept, keptFree, dropStale_eq_ok_iff.mpr ⟨kept, [], fresh, ?_, ?_⟩⟩
  · rw [outside]
    exact .nil
  · rw [outside]

section Find

variable {count : Nat} {c : Char} {rest : List Char}

theorem skipToToken_spaces {fuel : Nat} (front : reader.cursor.rest = Scalar.spaces count ++ c :: rest)
    (visible : Scalar.IsVisible c) (counted : reader.cursor.Counted)
    (margin : count = 0 → reader.cursor.mark.column = 0 → c ≠ '\ufeff') :
    reader.skipToToken (fuel + 1) = { reader with cursor := reader.cursor.skip count } := by
  obtain ⟨solid, noComment⟩ := visible
  simp only [isSpaceOrBreak, isSpaceOrTab, Bool.or_eq_false_iff, beq_eq_false_iff_ne] at solid
  have noMark : (reader.cursor.mark.index == 0 && reader.cursor.isAt '\ufeff') = false := by
    cases count with
    | zero =>
        cases start : reader.cursor.mark.index == 0 with
        | false => rfl
        | true =>
            have atMargin : reader.cursor.mark.column = 0 :=
              Nat.le_zero.mp ((beq_iff_eq.mp start) ▸ counted)
            simpa [Cursor.isAt, Cursor.peek?, front, Scalar.spaces] using margin rfl atMargin
    | succ count => simp [Cursor.isAt, Cursor.peek?, front, Scalar.spaces, List.replicate_succ]
  have run : reader.cursor.skipRun (fun c =>
      c == ' ' || ((reader.inFlow || !reader.keyAllowed) && c == '\t')) = reader.cursor.skip count := by
    have taken : reader.cursor.run (fun c =>
        c == ' ' || ((reader.inFlow || !reader.keyAllowed) && c == '\t')) = Scalar.spaces count := by
      rw [Cursor.run, front]
      apply takeWhile_run
      · simp [Scalar.spaces]
      · simp [solid.1]
    rw [Cursor.skipRun, taken, Scalar.spaces, List.length_replicate]
  have there : (reader.cursor.skip count).rest = c :: rest := Scalar.skip_spaces front
  have comment : (reader.cursor.skip count).skipComment = reader.cursor.skip count := by
    rw [Cursor.skipComment, Cursor.isAt, Cursor.peek?, there]
    simp [noComment]
  have noBreak : (reader.cursor.skip count).holdsAt 0 isBreak = false := by
    rw [Cursor.holdsAt_zero, there]
    exact solid.2
  simp only [skipToToken, noMark, Bool.false_eq_true, if_false, run, comment, noBreak]

theorem skipToToken_line {fuel : Nat}
    (front : reader.cursor.rest = '\n' :: (Scalar.spaces count ++ c :: rest))
    (visible : Scalar.IsVisible c) (outside : reader.outerCandidates = [])
    (margin : count ≠ 0) :
    reader.skipToToken (fuel + 2) =
      { reader with cursor := reader.cursor.skipBreak.skip count, keyAllowed := true } := by
  have noMark : reader.cursor.isAt '\ufeff' = false := by
    simp [Cursor.isAt, Cursor.peek?, front]
  have run : reader.cursor.skipRun (fun c =>
      c == ' ' || ((reader.inFlow || !reader.keyAllowed) && c == '\t')) = reader.cursor := by
    simp [Cursor.skipRun, Cursor.run, front]
  have comment : reader.cursor.skipComment = reader.cursor := by
    simp [Cursor.skipComment, Cursor.isAt, Cursor.peek?, front]
  have lineFeed : reader.cursor.holdsAt 0 isBreak = true := by
    rw [Cursor.holdsAt_zero, front]
    rfl
  have next : skipToToken (fuel + 1)
      { reader with cursor := reader.cursor.skipBreak, keyAllowed := true } =
      { reader with cursor := reader.cursor.skipBreak.skip count, keyAllowed := true } :=
    skipToToken_spaces (Scalar.skipBreak_lineFeed front) visible (Cursor.counted_skipBreak _)
      fun none => absurd none margin
  rw [skipToToken]
  simp only [noMark, Bool.and_false, Bool.false_eq_true, if_false, run, comment, lineFeed, if_true]
  rw [inFlow_of_outside outside, Bool.not_false, Bool.or_true]
  exact next

theorem skipToToken_end {fuel : Nat} {text : List Char} (front : reader.cursor.rest = text)
    (comment : text = [] ∨ ∃ rest, text = '#' :: rest ∧ ∀ c ∈ rest, isBreak c = false) :
    reader.skipToToken (fuel + 1) = { reader with cursor := reader.cursor.skipComment } ∧
      reader.cursor.skipComment.rest = [] := by
  have noMark : reader.cursor.isAt '\ufeff' = false := by
    rcases comment with rfl | ⟨rest, rfl, _⟩ <;> simp [Cursor.isAt, Cursor.peek?, front]
  have run : reader.cursor.skipRun (fun c =>
      c == ' ' || ((reader.inFlow || !reader.keyAllowed) && c == '\t')) = reader.cursor := by
    rcases comment with rfl | ⟨rest, rfl, _⟩ <;> simp [Cursor.skipRun, Cursor.run, front]
  have ended : reader.cursor.skipComment.rest = [] := by
    rcases comment with rfl | ⟨rest, rfl, noBreak⟩
    · simp [Cursor.skipComment, Cursor.isAt, Cursor.peek?, front]
    · have whole : reader.cursor.run (!isBreak ·) = '#' :: rest := by
        rw [Cursor.run, front, List.takeWhile_eq_self_iff]
        simpa using ⟨rfl, noBreak⟩
      simp [Cursor.skipComment, Cursor.isAt, Cursor.peek?, front, Cursor.skipRun, whole]
  have noBreak : reader.cursor.skipComment.holdsAt 0 isBreak = false := by
    rw [Cursor.holdsAt_zero, ended]
    rfl
  refine ⟨?_, ended⟩
  rw [skipToToken]
  simp only [noMark, Bool.and_false, Bool.false_eq_true, if_false, run, noBreak]

theorem At.findToken {text : List Char} (here : At reader text)
    (front : text = Scalar.spaces count ++ c :: rest) (visible : Scalar.IsVisible c)
    (margin : count = 0 → reader.cursor.mark.column = 0 → c ≠ '\ufeff') :
    ∃ candidate, (∀ key ∈ candidate, key.required = false) ∧
      reader.findToken = .ok { reader with cursor := reader.cursor.skip count, candidate } := by
  rw [TokenReader.findToken, skipToToken_spaces (here.rest.trans front) visible here.counted margin]
  exact dropStale_of_free here.outside here.free

theorem At.findToken_line {text : List Char} (here : At reader text)
    (front : text = '\n' :: (Scalar.spaces count ++ c :: rest)) (visible : Scalar.IsVisible c)
    (margin : count ≠ 0) :
    ∃ candidate, (∀ key ∈ candidate, key.required = false) ∧
      reader.findToken = .ok { reader with
        cursor := reader.cursor.skipBreak.skip count
        keyAllowed := true
        candidate } := by
  have found := here.rest.trans front
  rw [TokenReader.findToken, found, List.length_cons,
    skipToToken_line found visible here.outside margin]
  exact dropStale_of_free here.outside here.free

end Find

/-! ### Reading one token -/

/-- Reading tokens one after the other leads from one reader to another; each of them takes something
of the text. -/
inductive Advances : TokenReader → TokenReader → Prop where
  | refl (reader : TokenReader) : Advances reader reader
  | step {reader next last : TokenReader} (started : reader.started = true)
      (read : reader.readToken = .ok next)
      (shorter : next.cursor.rest.length < reader.cursor.rest.length) (later : Advances next last) :
      Advances reader last

theorem Advances.trans {first second third : TokenReader} (front : Advances first second)
    (back : Advances second third) : Advances first third := by
  induction front with
  | refl => exact back
  | step started read shorter _ ih => exact .step started read shorter (ih back)

theorem Advances.single {next : TokenReader} (started : reader.started = true)
    (read : reader.readToken = .ok next)
    (shorter : next.cursor.rest.length < reader.cursor.rest.length) : Advances reader next :=
  .step started read shorter (.refl next)

theorem Advances.finishes {first last : TokenReader} (advances : Advances first last) {steps : Nat}
    {tokens : List Token} (finishes : Finishes steps last tokens)
    (enough : steps ≤ last.cursor.rest.length + 1) :
    ∃ more, more ≤ first.cursor.rest.length + 1 ∧ Finishes more first tokens := by
  induction advances with
  | refl => exact ⟨steps, enough, finishes⟩
  | step started read shorter _ ih =>
      obtain ⟨more, bound, again⟩ := ih finishes enough
      exact ⟨more + 1, by omega, .step (fun _ => started) read (by omega) again⟩

theorem readTokenAt_plain {next c : Char} {rest follow : List Char}
    (starts : Yaml.startsPlain next (c :: rest) = true) (ends : Scalar.EndsPlain next follow)
    (front : reader.cursor.rest = c :: (rest ++ follow)) (outside : reader.outerCandidates = [])
    (noStart : reader.cursor.atDocumentMark '-' = false)
    (noEnd : reader.cursor.atDocumentMark '.' = false) :
    reader.readTokenAt c = reader.readPlain := by
  have flow := inFlow_of_outside outside
  have blankNext : reader.cursor.blankAt 1 = isSpaceOrBreak (rest.headD next) := by
    rw [← ends.blank_iff rest, Cursor.blankAt, Cursor.holdsAt, Cursor.peekAt?, front]
    rfl
  simp only [Yaml.startsPlain, Bool.and_eq_true, Bool.not_eq_true', Bool.or_eq_true] at starts
  obtain ⟨visible, notIndicator | ⟨special, solid⟩⟩ := starts
  · have begins : reader.startsPlain c = true := by simp [startsPlain, visible, notIndicator]
    simp only [isIndicator, List.contains_eq_mem, List.mem_cons, List.not_mem_nil, or_false,
      decide_eq_false_iff_not, not_or] at notIndicator
    simp [readTokenAt, noStart, noEnd, notIndicator, begins]
  · rw [solid] at blankNext
    have noTab : reader.cursor.holdsAt 1 isSpaceOrTab = false := by
      rw [Cursor.blankAt, Cursor.holdsAt] at blankNext
      rw [Cursor.holdsAt]
      cases there : reader.cursor.peekAt? 1 with
      | none => rfl
      | some d =>
          rw [there] at blankNext
          exact (Bool.or_eq_false_iff.mp blankNext).1
    simp only [List.contains_eq_mem, List.mem_cons, List.not_mem_nil, or_false, decide_eq_true_eq]
      at special
    rcases special with rfl | rfl | rfl <;>
      simp [readTokenAt, noStart, noEnd, flow, blankNext, startsPlain, noTab]

theorem isPrefixOf_of_append {text follow : List Char} {next mark : Char}
    (head : follow.headD '\n' = next) (other : mark ≠ next)
    (none : [mark, mark, mark].isPrefixOf text = false) :
    [mark, mark, mark].isPrefixOf (text ++ follow) = false := by
  subst head
  cases follow with
  | nil => rwa [List.append_nil]
  | cons d follow =>
      have other : (mark == d) = false := beq_eq_false_iff_ne.mpr other
      rcases text with _ | ⟨a, _ | ⟨b, _ | ⟨c, rest⟩⟩⟩
      · simp only [List.nil_append, List.isPrefixOf, other, Bool.false_and]
      · simp only [List.cons_append, List.nil_append, List.isPrefixOf, other, Bool.false_and,
          Bool.and_false]
      · simp only [List.cons_append, List.nil_append, List.isPrefixOf, other, Bool.false_and,
          Bool.and_false]
      · exact none

theorem noDocumentMark {cursor : Cursor} {text follow : List Char} {next : Char}
    (front : cursor.rest = text ++ follow) (head : follow.headD '\n' = next)
    (colon : next = ':' ∨ next = '\n') (margin : cursor.mark.column = 0 → startsMargin text = true) :
    cursor.atDocumentMark '-' = false ∧ cursor.atDocumentMark '.' = false := by
  by_cases atMargin : cursor.mark.column = 0
  · have starts := margin atMargin
    simp only [startsMargin, Bool.not_eq_true', Bool.or_eq_false_iff] at starts
    have others : '-' ≠ next ∧ '.' ≠ next := by
      rcases colon with rfl | rfl <;> decide
    simp only [Cursor.atDocumentMark, front, isPrefixOf_of_append head others.1 starts.1.1,
      isPrefixOf_of_append head others.2 starts.1.2, Bool.and_false, Bool.false_and, and_self]
  · simp [Cursor.atDocumentMark, atMargin]

/-- What stands behind a part of a layout inside a collection at `indent`, in front of which text the
reader goes on, and in which column: nothing, or a line that does not stand further right or is a
comment. -/
inductive Behind (indent : Int) : List Char → List Char → Nat → Prop where
  | nothing (column : Nat) : Behind indent [] [] column
  | line {column : Nat} {c : Char} {rest : List Char} (left : column ≤ indent ∨ c = '#')
      (solid : isSpaceOrBreak c = false) :
      Behind indent ('\n' :: (Scalar.spaces column ++ c :: rest)) (c :: rest) column

theorem Behind.endsPlain {indent : Int} {follow shown : List Char} {column : Nat}
    (behind : Behind indent follow shown column) : Scalar.EndsPlain '\n' follow := by
  cases behind with
  | nothing => exact .nil
  | line _ _ => exact .lineFeed _

theorem Behind.leaves {indent : Int} {follow shown : List Char} {column : Nat} {cursor : Cursor}
    (behind : Behind indent follow shown column) (front : cursor.rest = follow)
    (counted : cursor.Counted) :
    ∃ newLine after, Scalar.Leaves (indent + 1).toNat cursor newLine after ∧ after.rest = shown ∧
      after.Counted ∧ (shown ≠ [] → after.mark.column = column ∧ newLine = true) := by
  cases behind with
  | nothing =>
      have solid : cursor.holdsAt 0 isSpaceOrBreak = false := by
        rw [Cursor.holdsAt_zero, front]
        rfl
      exact ⟨false, cursor, .sameLine solid, front, counted, fun filled => absurd rfl filled⟩
  | @line column c rest left solid =>
      refine ⟨true, cursor.skipBreak.skip column,
        .nextLine front (by simpa using solid) (left.imp (by omega) (congrArg some)), ?_,
        (Cursor.counted_skipBreak cursor).skip column,
        fun _ => ⟨Scalar.nextLine_column cursor column, rfl⟩⟩
      exact Scalar.nextLine_rest front

theorem Behind.length_le {indent : Int} {follow shown : List Char} {column : Nat}
    (behind : Behind indent follow shown column) : shown.length ≤ follow.length := by
  cases behind with
  | nothing => exact Nat.le_refl _
  | line _ _ =>
      simp
      omega

/-- Reading leads in front of the text that is shown, inside these collections, with these lexemes
read. On a line of its own the next token may be a key. -/
def ReadsTo (reader : TokenReader) (indent : Int) (outer : List Int) (lexemes : List Lexeme)
    (shown : List Char) (column : Nat) : Prop :=
  ∃ next, Advances reader next ∧ At next shown ∧ Inside next indent indent outer lexemes ∧
    (shown ≠ [] → next.cursor.mark.column = column ∧ next.keyAllowed = true)

theorem ReadsTo.after {first : TokenReader} {indent : Int} {outer : List Int}
    {lexemes : List Lexeme} {shown : List Char} {column : Nat} (front : Advances first reader)
    (reads : ReadsTo reader indent outer lexemes shown column) :
    ReadsTo first indent outer lexemes shown column := by
  obtain ⟨next, advances, rest⟩ := reads
  exact ⟨next, front.trans advances, rest⟩

section Steps

variable {there : TokenReader} {indent : Int} {outer : List Int} {lexemes : List Lexeme}

theorem readToken_found (started : reader.started = true) (ok : reader.findToken = .ok there) :
    reader.readToken = there.readHere := by
  rw [readToken_of_started started, ok]
  rfl

theorem Advances.found {next : TokenReader} (started : reader.started = true)
    (ok : reader.findToken = .ok there) (read : there.readHere = .ok next)
    (shorter : next.cursor.rest.length < there.cursor.rest.length) : Advances reader next :=
  .single started ((readToken_found started ok).trans read)
    (Nat.lt_of_lt_of_le shorter (findToken_reaches ok).1.rest)

theorem dropCandidate_of_free (free : ∀ key ∈ reader.candidate, key.required = false) :
    reader.dropCandidate = .ok { reader with candidate := none } := by
  cases there : reader.candidate with
  | none =>
      have kept : reader.dropCandidate = .ok reader := by simp only [dropCandidate, there]
      exact kept.trans (congrArg Except.ok (eq_of_dropCandidate kept))
  | some key => simp [dropCandidate, there, free key there]

def keyHere (reader : TokenReader) : KeyCandidate where
  required := reader.indent == reader.column
  number := reader.released + reader.queue.length
  mark := reader.cursor.mark

theorem saveCandidate_of_allowed (outside : reader.outerCandidates = [])
    (free : ∀ key ∈ reader.candidate, key.required = false) (allowed : reader.keyAllowed = true) :
    reader.saveCandidate = .ok { reader with candidate := some reader.keyHere } := by
  rw [saveCandidate, if_pos allowed, inFlow_of_outside outside, dropCandidate_of_free free, ok_bind]
  rfl

theorem saveCandidate_of_right (outside : reader.outerCandidates = [])
    (free : ∀ key ∈ reader.candidate, key.required = false) (right : reader.indent < reader.column) :
    ∃ candidate, (∀ key ∈ candidate, key.required = false) ∧
      reader.saveCandidate = .ok { reader with candidate } := by
  by_cases allowed : reader.keyAllowed = true
  · refine ⟨some reader.keyHere, ?_, saveCandidate_of_allowed outside free allowed⟩
    rintro _ ⟨⟩
    exact beq_eq_false_iff_ne.mpr (Int.ne_of_lt right)
  · exact ⟨reader.candidate, free, if_neg allowed⟩

/-- The innermost collection stands at `indent`, the ones around it at `outer`, and these lexemes are
in the queue. -/
structure Within (reader : TokenReader) (indent : Int) (outer : List Int) (lexemes : List Lexeme) :
    Prop where
  indent_eq : reader.indent = indent
  outer_eq : reader.outerIndents = outer
  lexemes_eq : reader.queue.map (·.lexeme) = lexemes

theorem Within.inside {level : Int} (within : Within reader indent outer lexemes)
    (stays : indent ≤ level) : Inside reader level indent outer lexemes := by
  obtain ⟨rfl, rfl, rfl⟩ := within
  exact ⟨stays, [], rfl, by simp, by simp⟩

theorem Inside.readHere {c : Char} {rest : List Char} (here : At there (c :: rest))
    (inside : Inside there there.column indent outer lexemes) :
    ∃ closed, there.readHere = closed.readTokenAt c ∧ At closed (c :: rest) ∧
      Within closed indent outer lexemes ∧ closed.cursor = there.cursor ∧
      closed.keyAllowed = there.keyAllowed := by
  obtain ⟨queue, closed, same⟩ := inside.closeBlocks here.outside
  refine ⟨{ there with indent, outerIndents := outer, queue }, ?_,
    ⟨here.started, here.outside, here.free, here.counted, here.rest⟩, ⟨rfl, rfl, same⟩, rfl, rfl⟩
  rw [TokenReader.readHere, closed]
  simp [Cursor.peek?, here.rest]

theorem readPlain_of_scalar {candidate : Option KeyCandidate} {scalar : Scalar.PlainScalar}
    (outside : reader.outerCandidates = [])
    (saved : reader.saveCandidate = .ok { reader with candidate })
    (read : Scalar.readPlain false (reader.indent + 1).toNat reader.cursor = .ok scalar) :
    reader.readPlain = .ok { reader with
      candidate
      keyAllowed := scalar.newLine
      cursor := scalar.cursor
      queue := reader.queue ++ [⟨.scalar scalar.text .plain, reader.cursor.mark, scalar.stop⟩] } := by
  have flow : TokenReader.inFlow { reader with candidate } = false := inFlow_of_outside outside
  rw [readPlain, saved, ok_bind, flow]
  dsimp only
  rw [read]
  rfl

theorem read_plain {text follow shown : List Char} {column : Nat} (started : reader.started = true)
    (ok : reader.findToken = .ok there) (here : At there (text ++ follow))
    (inside : Inside there there.column indent outer lexemes) (right : indent < there.column)
    (stands : standsPlain '\n' text = true)
    (margin : there.cursor.mark.column = 0 → startsMargin text = true)
    (behind : Behind indent follow shown column) :
    ReadsTo reader indent outer (lexemes ++ [.scalar text .plain]) shown column := by
  have starts := (Bool.and_eq_true_iff.mp stands).1
  obtain ⟨c, rest, rfl, _⟩ := Scalar.startsVisibly_of_startsPlain starts
  have ends := behind.endsPlain
  obtain ⟨closed, read, closedAt, within, cursor_eq, _⟩ := inside.readHere here
  rw [← cursor_eq] at margin
  obtain ⟨noStart, noEnd⟩ := noDocumentMark closedAt.rest ends.head (.inr rfl) margin
  have column_eq : there.column = closed.cursor.mark.column := by rw [cursor_eq]; rfl
  obtain ⟨candidate, free, saved⟩ := saveCandidate_of_right closedAt.outside closedAt.free
    (within.indent_eq.trans_lt (right.trans_eq column_eq))
  have front : (closed.cursor.skip (c :: rest).length).rest = follow := by
    simp [closedAt.rest]
  obtain ⟨newLine, after, leaves, shows, counted, onLine⟩ :=
    behind.leaves front (closedAt.counted.skip _)
  rw [← within.indent_eq] at leaves
  have reached : (closed.indent + 1).toNat ≤ closed.cursor.mark.column + 1 := by
    have := within.indent_eq
    omega
  have token := (readTokenAt_plain starts ends closedAt.rest closedAt.outside noStart noEnd).trans
    (readPlain_of_scalar closedAt.outside saved
      (Scalar.readPlain_text stands ends closedAt.rest reached noStart noEnd leaves))
  refine ⟨_, Advances.found started ok (read.trans token) ?_,
    ⟨closedAt.started, closedAt.outside, free, counted, shows⟩,
    Within.inside ⟨within.indent_eq, within.outer_eq, ?_⟩ (Int.le_refl _), onLine⟩
  · have shorter := behind.length_le
    simp [here.rest, shows]
    omega
  · simp [within.lexemes_eq]

theorem read_literal {lines : List (List Char)} {follow shown : List Char} {content column : Nat}
    (started : reader.started = true) (ok : reader.findToken = .ok there)
    (here : At there ('|' :: (Scalar.blockText content lines ++ follow)))
    (inside : Inside there there.column indent outer lexemes) (right : indent < content)
    (filled : lines ≠ []) (literal : Scalar.areLiteral lines = true)
    (behind : Behind indent follow shown column) (line : Scalar.StartsVisibly shown) :
    ReadsTo reader indent outer (lexemes ++ [.scalar (Scalar.literalText lines) .literal]) shown
      column := by
  obtain ⟨closed, read, closedAt, within, cursor_eq, _⟩ := inside.readHere here
  cases behind with
  | nothing => exact absurd rfl line.ne_nil
  | @line column c rest left solid =>
      have left : column ≤ indent := by
        obtain ⟨_, _, eq, visible⟩ := line
        obtain ⟨rfl, rfl⟩ := List.cons_eq_cons.mp eq
        exact left.resolve_right visible.2
      have inner : closed.indent < content := within.indent_eq.trans_lt right
      obtain ⟨after, block, shows, reached, counted⟩ :=
        Scalar.readBlock_text filled literal closedAt.rest (by simpa using solid) (by omega) inner
      have token : closed.readTokenAt '|' = .ok { closed with
          candidate := none
          keyAllowed := true
          cursor := after
          queue := closed.queue ++ [⟨.scalar (Scalar.literalText lines) .literal,
            closed.cursor.mark, after.mark⟩] } := by
        have bar : closed.readTokenAt '|' = closed.readBlockScalar false := by
          simp [readTokenAt, Cursor.atDocumentMark, closedAt.rest,
            inFlow_of_outside closedAt.outside]
        rw [bar, readBlockScalar, dropCandidate_of_free closedAt.free, ok_bind]
        dsimp only
        rw [block]
        rfl
      refine ⟨_, Advances.found started ok (read.trans token) ?_,
        ⟨closedAt.started, closedAt.outside, by simp, counted, shows⟩,
        Within.inside ⟨within.indent_eq, within.outer_eq, ?_⟩ (Int.le_refl _),
        fun _ => ⟨reached, rfl⟩⟩
      · simp [here.rest, shows]
        omega
      · simp [within.lexemes_eq]

/-- A block collection at a column begins inside the one at `indent`, or goes on there. -/
inductive Opens (start : Lexeme) (column : Int) : Int → List Int → List Int → List Lexeme → Prop where
  | fresh {indent : Int} (outer : List Int) (inside : indent < column) :
      Opens start column indent outer (indent :: outer) [start]
  | again (outer : List Int) : Opens start column column outer outer []

namespace Opens

variable {start : Lexeme} {column : Int} {outer' : List Int} {opening : List Lexeme}

theorem openBlock_here (opens : Opens start column indent outer outer' opening)
    (within : Within reader indent outer lexemes) (outside : reader.outerCandidates = [])
    (mark : Mark) :
    ∃ queue, reader.openBlock column none start mark =
        { reader with indent := column, outerIndents := outer', queue } ∧
      queue.map (·.lexeme) = lexemes ++ opening := by
  obtain ⟨rfl, rfl, rfl⟩ := within
  have flow := inFlow_of_outside outside
  cases opens with
  | fresh _ inside =>
      exact ⟨reader.queue ++ [⟨start, mark, reader.cursor.mark⟩],
        by simp [openBlock, flow, Int.not_le.mpr inside, push], by simp⟩
  | again => exact ⟨reader.queue, by simp [openBlock, flow], by simp⟩

variable (reader) in
theorem openBlock_before (opens : Opens start column indent outer outer' opening)
    {front back : List Token} (indent_eq : reader.indent = indent)
    (outer_eq : reader.outerIndents = outer)
    (queue : reader.queue = front ++ back) (outside : reader.outerCandidates = []) (mark : Mark) :
    ∃ opened, reader.openBlock column (some (reader.released + front.length)) start mark =
        { reader with indent := column, outerIndents := outer', queue := front ++ (opened ++ back) } ∧
      opened.map (·.lexeme) = opening := by
  subst indent_eq outer_eq
  have flow := inFlow_of_outside outside
  cases opens with
  | fresh _ inside =>
      exact ⟨[⟨start, mark, mark⟩],
        by simp [openBlock, flow, Int.not_le.mpr inside, insert, queue], rfl⟩
  | again => exact ⟨[], by simp [openBlock, flow, ← queue], rfl⟩

end Opens

theorem read_hyphen {tail : List Char} {outer' : List Int} {opening : List Lexeme}
    (started : reader.started = true) (ok : reader.findToken = .ok there)
    (here : At there ('-' :: tail)) (allowed : there.keyAllowed = true)
    (inside : Inside there there.column indent outer lexemes)
    (opens : Opens .blockSequenceStart there.column indent outer outer' opening)
    (blank : tail.head?.elim true isSpaceOrBreak = true) :
    ∃ next, Advances reader next ∧ At next tail ∧
      Within next there.column outer' (lexemes ++ opening ++ [.blockEntry]) ∧
      next.cursor.mark.column = there.cursor.mark.column + 1 ∧ next.keyAllowed = true := by
  obtain ⟨closed, read, closedAt, within, cursor_eq, allowed_eq⟩ := inside.readHere here
  have column_eq : closed.column = there.column := by rw [column, cursor_eq]; rfl
  have blankNext : closed.cursor.blankAt 1 = true := by
    rw [Cursor.blankAt, Cursor.holdsAt, Cursor.peekAt?, closedAt.rest]
    exact blank
  have noStart : closed.cursor.atDocumentMark '-' = false := by
    cases tail with
    | nil => simp [Cursor.atDocumentMark, closedAt.rest]
    | cons c rest =>
        have other : ('-' == c) = false := by
          rw [beq_eq_false_iff_ne]
          rintro rfl
          cases blank
        simp only [Cursor.atDocumentMark, closedAt.rest, List.isPrefixOf, other, Bool.false_and,
          Bool.and_false]
  have noEnd : closed.cursor.atDocumentMark '.' = false := by
    simp [Cursor.atDocumentMark, closedAt.rest]
  have hyphen : closed.readTokenAt '-' = closed.readBlockEntry := by
    simp [readTokenAt, noStart, noEnd, blankNext]
  obtain ⟨queue, opened, lexemes_eq⟩ :=
    opens.openBlock_here within closedAt.outside closed.cursor.mark
  have token : closed.readBlockEntry = .ok { closed with
      indent := there.column
      outerIndents := outer'
      candidate := none
      keyAllowed := true
      cursor := closed.cursor.skip
      queue := queue ++ [⟨.blockEntry, closed.cursor.mark, closed.cursor.skip.mark⟩] } := by
    have may : (!closed.inFlow && !closed.keyAllowed) = false := by
      rw [allowed_eq, allowed]
      simp
    have dropped : dropCandidate { closed with
        indent := there.column, outerIndents := outer', queue } =
        .ok { closed with
          indent := there.column, outerIndents := outer', queue, candidate := none } :=
      dropCandidate_of_free closedAt.free
    rw [readBlockEntry, may, if_neg Bool.false_ne_true, column_eq, opened, dropped]
    rfl
  refine ⟨_, Advances.found started ok (read.trans (hyphen.trans token)) ?_,
    ⟨closedAt.started, closedAt.outside, by simp, closedAt.counted.skip 1, ?_⟩, ⟨rfl, rfl, ?_⟩, ?_,
    rfl⟩
  · simp [here.rest, closedAt.rest]
  · simp [closedAt.rest]
  · simp [lexemes_eq]
  · simp [cursor_eq]

theorem Opens.stays {start : Lexeme} {column : Int} {outer' : List Int} {opening : List Lexeme}
    (opens : Opens start column indent outer outer' opening) : indent ≤ column := by
  cases opens with
  | fresh _ inside => exact Int.le_of_lt inside
  | again => exact Int.le_refl _

theorem findToken_colon {key : KeyCandidate} {tail : List Char}
    (outside : reader.outerCandidates = []) (counted : reader.cursor.Counted)
    (rest : reader.cursor.rest = ':' :: tail) (candidate : reader.candidate = some key)
    (fresh : isStale reader.cursor key = false) : reader.findToken = .ok reader := by
  have spaces : reader.cursor.rest = Scalar.spaces 0 ++ ':' :: tail := rest
  rw [findToken, skipToToken_spaces spaces ⟨rfl, by decide⟩ counted fun _ _ => by decide]
  refine dropStale_eq_ok_iff.mpr ⟨some key, [], ?_, ?_, ?_⟩
  · rw [candidate]
    simp [keepFresh, fresh]
  · rw [outside]
    exact .nil
  · rw [← candidate, ← outside]
    rfl

theorem readHere_value {key : KeyCandidate} {tail : List Char} {outer' : List Int}
    {opening : List Lexeme} {front : List Token} {scalar : Token}
    (outside : reader.outerCandidates = []) (rest : reader.cursor.rest = ':' :: tail)
    (blank : tail.head?.elim true isSpaceOrBreak = true) (stays : reader.indent ≤ reader.column)
    (candidate : reader.candidate = some key) (number : key.number = reader.released + front.length)
    (queue : reader.queue = front ++ [scalar])
    (opens : Opens .blockMappingStart key.mark.column reader.indent reader.outerIndents outer' opening) :
    ∃ tokens, tokens.map (·.lexeme) = front.map (·.lexeme) ++ opening ++ [.key, scalar.lexeme, .value] ∧
      reader.readHere = .ok { reader with
        indent := key.mark.column
        outerIndents := outer'
        candidate := none
        keyAllowed := false
        cursor := reader.cursor.skip
        queue := tokens } := by
  have closed : reader.closeBlocks reader.column = reader := by
    rw [closeBlocks, inFlow_of_outside outside]
    exact close_stays stays _
  have blankNext : reader.cursor.blankAt 1 = true := by
    rw [Cursor.blankAt, Cursor.holdsAt, Cursor.peekAt?, rest]
    exact blank
  have colon : reader.readHere = reader.readValue := by
    rw [readHere, closed, Cursor.peek?, rest]
    simp [readTokenAt, Cursor.atDocumentMark, rest, blankNext]
  have inserted : reader.insert key.number .key key.mark =
      { reader with queue := front ++ [⟨.key, key.mark, key.mark⟩, scalar] } := by
    simp [insert, number, queue]
  obtain ⟨opened, block, opened_eq⟩ := opens.openBlock_before
    { reader with queue := front ++ [⟨.key, key.mark, key.mark⟩, scalar] } rfl rfl rfl outside
    key.mark
  refine ⟨front ++ (opened ++ [⟨.key, key.mark, key.mark⟩, scalar]) ++
    [⟨.value, reader.cursor.mark, reader.cursor.skip.mark⟩], by simp [opened_eq], ?_⟩
  rw [colon, readValue, candidate]
  dsimp only
  rw [inserted, number, block]
  rfl

def behindKey (reader : TokenReader) (key : List Char) : TokenReader :=
  { reader with
    candidate := some reader.keyHere
    keyAllowed := false
    cursor := reader.cursor.skip key.length
    queue := reader.queue ++
      [⟨.scalar key .plain, reader.cursor.mark, (reader.cursor.skip key.length).mark⟩] }

theorem readHere_key {key tail : List Char} (here : At there (key ++ ':' :: tail))
    (allowed : there.keyAllowed = true) (inside : Inside there there.column indent outer lexemes)
    (stays : indent ≤ there.column) (stands : standsPlain ':' key = true)
    (margin : there.cursor.mark.column = 0 → startsMargin key = true)
    (blank : tail.head?.elim true isSpaceOrBreak = true) :
    ∃ closed, there.readHere = .ok (closed.behindKey key) ∧ At closed (key ++ ':' :: tail) ∧
      Within closed indent outer lexemes ∧ closed.cursor = there.cursor := by
  have starts := (Bool.and_eq_true_iff.mp stands).1
  obtain ⟨c, rest, rfl, _⟩ := Scalar.startsVisibly_of_startsPlain starts
  have ends := Scalar.EndsPlain.colon blank
  obtain ⟨closed, read, closedAt, within, cursor_eq, allowed_eq⟩ := inside.readHere here
  rw [← cursor_eq] at margin
  obtain ⟨noStart, noEnd⟩ := noDocumentMark closedAt.rest ends.head (.inl rfl) margin
  have saved := saveCandidate_of_allowed closedAt.outside closedAt.free (allowed_eq.trans allowed)
  have solid : (closed.cursor.skip (c :: rest).length).holdsAt 0 isSpaceOrBreak = false := by
    rw [Cursor.holdsAt_zero, Cursor.skip_rest, closedAt.rest]
    simp [isSpaceOrBreak, isSpaceOrTab, isBreak]
  have reached : (closed.indent + 1).toNat ≤ closed.cursor.mark.column + 1 := by
    have indent_eq := within.indent_eq
    have place : there.column = closed.cursor.mark.column := by rw [cursor_eq]; rfl
    omega
  exact ⟨closed, read.trans ((readTokenAt_plain starts ends closedAt.rest closedAt.outside noStart
    noEnd).trans (readPlain_of_scalar closedAt.outside saved (Scalar.readPlain_text stands ends
      closedAt.rest reached noStart noEnd (.sameLine solid)))), closedAt, within, cursor_eq⟩

theorem read_key {key tail : List Char} {outer' : List Int} {opening : List Lexeme}
    (started : reader.started = true) (ok : reader.findToken = .ok there)
    (here : At there (key ++ ':' :: tail)) (allowed : there.keyAllowed = true)
    (inside : Inside there there.column indent outer lexemes)
    (opens : Opens .blockMappingStart there.column indent outer outer' opening)
    (stands : standsPlain ':' key = true) (short : key.length ≤ longestKey)
    (margin : there.cursor.mark.column = 0 → startsMargin key = true)
    (blank : tail.head?.elim true isSpaceOrBreak = true) :
    ∃ next, Advances reader next ∧ At next tail ∧
      Within next there.column outer' (lexemes ++ opening ++ [.key, .scalar key .plain, .value]) ∧
      next.cursor.mark.column = there.cursor.mark.column + key.length + 1 := by
  obtain ⟨closed, read, closedAt, within, cursor_eq⟩ :=
    readHere_key here allowed inside opens.stays stands margin blank
  have outside : (closed.behindKey key).outerCandidates = [] := closedAt.outside
  have counted : (closed.behindKey key).cursor.Counted := closedAt.counted.skip _
  have colon : (closed.behindKey key).cursor.rest = ':' :: tail := by
    simp [behindKey, closedAt.rest]
  have column_eq : (closed.keyHere.mark.column : Int) = there.column := by
    rw [keyHere, cursor_eq]
    rfl
  have fresh : isStale (closed.behindKey key).cursor closed.keyHere = false := by
    simp [isStale, behindKey, keyHere, short]
  have opensHere : Opens .blockMappingStart closed.keyHere.mark.column
      (closed.behindKey key).indent (closed.behindKey key).outerIndents outer' opening := by
    rw [column_eq]
    exact within.indent_eq ▸ within.outer_eq ▸ opens
  have stays : (closed.behindKey key).indent ≤ (closed.behindKey key).column := by
    have before := opensHere.stays
    have column : (closed.behindKey key).column = closed.keyHere.mark.column + key.length := rfl
    omega
  obtain ⟨tokens, lexemes_eq, value⟩ :=
    readHere_value outside colon blank stays rfl rfl rfl opensHere
  have filled : 0 < key.length := by
    obtain ⟨c, rest, rfl, _⟩ :=
      Scalar.startsVisibly_of_startsPlain (Bool.and_eq_true_iff.mp stands).1
    exact Nat.succ_pos _
  have scalar : Advances reader (closed.behindKey key) := by
    refine .found started ok read ?_
    rw [colon, here.rest]
    simp
    omega
  refine ⟨_, scalar.trans (.found closedAt.started
    (findToken_colon outside counted colon rfl fresh) value ?_),
    ⟨closedAt.started, outside, by simp, counted.skip 1, ?_⟩, ⟨column_eq, rfl, ?_⟩, ?_⟩
  · simp [colon]
  · simp [colon]
  · simp [lexemes_eq, within.lexemes_eq]
  · simp [behindKey, cursor_eq]

end Steps

end PipelineAdvisor.Yaml.TokenReader
