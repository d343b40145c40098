import Mathlib.Data.List.Forall2
import PipelineAdvisor.Proofs.Yaml.Keys

/-!
The queue of tokens. Tokens are released as soon as nothing can be put in front of them any more, and
that changes nothing: the tokens of a text are those that stand in the queue when all of it has been
read without releasing any.
-/

namespace PipelineAdvisor.Yaml.TokenReader

theorem mapM_eq_ok_iff {ε α β : Type} {f : α → Except ε β} {list : List α} {results : List β} :
    list.mapM f = .ok results ↔
      List.Forall₂ (fun value result => f value = .ok result) list results := by
  induction list generalizing results with
  | nil =>
      rw [List.mapM_nil, List.forall₂_nil_left_iff]
      exact ⟨fun same => (Except.ok.inj same).symm, fun same => congrArg _ same.symm⟩
  | cons value rest ih =>
      rw [List.mapM_cons, bind_eq_ok_iff, List.forall₂_cons_left_iff]
      constructor
      · rintro ⟨result, here, later⟩
        obtain ⟨others, there, same⟩ := bind_eq_ok_iff.mp later
        exact ⟨result, others, here, ih.mp there, (Except.ok.inj same).symm⟩
      · rintro ⟨result, others, here, there, rfl⟩
        exact ⟨result, here, bind_eq_ok_iff.mpr ⟨others, ih.mpr there, rfl⟩⟩

theorem exists_of_mem_right {α β : Type} {related : α → β → Prop} {list : List α} {others : List β}
    (pairs : List.Forall₂ related list others) {other : β} (known : other ∈ others) :
    ∃ value ∈ list, related value other := by
  induction pairs with
  | nil => simp at known
  | @cons value _ rest _ here _ ih =>
      rcases List.mem_cons.mp known with rfl | later
      · exact ⟨value, List.mem_cons_self, here⟩
      · obtain ⟨value, inRest, there⟩ := ih later
        exact ⟨value, List.mem_cons_of_mem _ inRest, there⟩

variable {front : List Token} {reader : TokenReader}

def release (front : List Token) (reader : TokenReader) : TokenReader :=
  { reader with
    queue := reader.queue.drop front.length
    released := reader.released + front.length }

def candidates (reader : TokenReader) : List (Option KeyCandidate) :=
  reader.candidate :: reader.outerCandidates

/-- These tokens stay at the front of the queue: no key can begin at one of them. -/
structure Keeps (front : List Token) (reader : TokenReader) : Prop where
  queue : front <+: reader.queue
  numbers : ∀ candidate ∈ reader.candidates, ∀ key ∈ candidate,
    reader.released + front.length ≤ key.number

theorem Keeps.length_le (keeps : Keeps front reader) : front.length ≤ reader.queue.length :=
  keeps.queue.length_le

/-- One computation gives what the other gives, with the tokens released, and they stay at the front.
-/
structure Follows (front : List Token) (slow quick : Except SyntaxError TokenReader) : Prop where
  same : slow = quick.map (release front)
  keeps : Ensures quick (Keeps front)

namespace Follows

theorem ok (keeps : Keeps front reader) : Follows front (.ok (release front reader)) (.ok reader) :=
  ⟨rfl, .ok keeps⟩

theorem error (error : SyntaxError) : Follows front (.error error) (.error error) :=
  ⟨rfl, .error⟩

theorem bind {slow quick : Except SyntaxError TokenReader}
    {slowNext quickNext : TokenReader → Except SyntaxError TokenReader}
    (follows : Follows front slow quick)
    (next : ∀ reader, quick = .ok reader → Keeps front reader →
      Follows front (slowNext (release front reader)) (quickNext reader)) :
    Follows front (slow >>= slowNext) (quick >>= quickNext) := by
  obtain ⟨rfl, keeps⟩ := follows
  cases quick with
  | error error => exact .error error
  | ok reader => exact next reader rfl (keeps reader rfl)

theorem bind_same {α : Type} {first : Except SyntaxError α}
    {slowNext quickNext : α → Except SyntaxError TokenReader}
    (next : ∀ value, first = .ok value → Follows front (slowNext value) (quickNext value)) :
    Follows front (first >>= slowNext) (first >>= quickNext) := by
  cases first with
  | error error => exact .error error
  | ok value => exact next value rfl

theorem branch {condition : Bool} {slow quick otherSlow otherQuick : Except SyntaxError TokenReader}
    (yes : Follows front slow quick) (no : Follows front otherSlow otherQuick) :
    Follows front (if condition then slow else otherSlow)
      (if condition then quick else otherQuick) := by
  cases condition with
  | true => exact yes
  | false => exact no

end Follows

section Release

@[simp] theorem release_cursor : (release front reader).cursor = reader.cursor := rfl

@[simp] theorem release_inFlow : (release front reader).inFlow = reader.inFlow := rfl

@[simp] theorem release_indent : (release front reader).indent = reader.indent := rfl

@[simp] theorem release_column : (release front reader).column = reader.column := rfl

@[simp] theorem release_keyAllowed : (release front reader).keyAllowed = reader.keyAllowed := rfl

@[simp] theorem release_candidate : (release front reader).candidate = reader.candidate := rfl

@[simp] theorem release_outerCandidates :
    (release front reader).outerCandidates = reader.outerCandidates := rfl

@[simp] theorem release_started : (release front reader).started = reader.started := rfl

theorem append_release (keeps : Keeps front reader) (token : Token) :
    { release front reader with queue := (release front reader).queue ++ [token] } =
      release front { reader with queue := reader.queue ++ [token] } := by
  simp [release, List.drop_append_of_le_length keeps.length_le]

theorem Keeps.append (keeps : Keeps front reader) (token : Token) :
    Keeps front { reader with queue := reader.queue ++ [token] } :=
  ⟨keeps.queue.trans (List.prefix_append _ _), keeps.numbers⟩

theorem push_release (keeps : Keeps front reader) (lexeme : Lexeme) (mark : Mark) :
    (release front reader).push lexeme mark = release front (reader.push lexeme mark) :=
  append_release keeps _

theorem Keeps.push (keeps : Keeps front reader) (lexeme : Lexeme) (mark : Mark) :
    Keeps front (reader.push lexeme mark) :=
  keeps.append _

theorem insert_release (keeps : Keeps front reader) {number : Nat}
    (behind : reader.released + front.length ≤ number) (lexeme : Lexeme) (mark : Mark) :
    (release front reader).insert number lexeme mark =
      release front (reader.insert number lexeme mark) := by
  obtain ⟨rest, split⟩ := keeps.queue
  obtain ⟨place, rfl⟩ := Nat.exists_eq_add_of_le behind
  have there : reader.released + front.length + place - reader.released = front.length + place := by
    omega
  simp [insert, release, ← split, there, List.take_append, List.drop_append]

theorem Keeps.insert (keeps : Keeps front reader) {number : Nat}
    (behind : reader.released + front.length ≤ number) (lexeme : Lexeme) (mark : Mark) :
    Keeps front (reader.insert number lexeme mark) := by
  refine ⟨?_, keeps.numbers⟩
  have inside : front.length ≤ number - reader.released := by omega
  obtain ⟨rest, split⟩ := keeps.queue
  simp only [TokenReader.insert, ← split, List.take_append, List.take_of_length_le inside]
  exact ⟨_, (List.append_assoc _ _ _).symm⟩

theorem openBlock_release (keeps : Keeps front reader) (number : Option Nat)
    (behind : ∀ place ∈ number, reader.released + front.length ≤ place) (column : Int)
    (lexeme : Lexeme) (mark : Mark) :
    (release front reader).openBlock column number lexeme mark =
        release front (reader.openBlock column number lexeme mark) ∧
      Keeps front (reader.openBlock column number lexeme mark) := by
  unfold openBlock
  rw [release_inFlow, release_indent]
  split
  · exact ⟨rfl, keeps⟩
  · have opened : Keeps front
        { reader with indent := column, outerIndents := reader.indent :: reader.outerIndents } :=
      ⟨keeps.queue, keeps.numbers⟩
    cases number with
    | none => exact ⟨push_release opened lexeme mark, opened.push lexeme mark⟩
    | some place =>
        exact ⟨insert_release opened (behind place rfl) lexeme mark,
          opened.insert (behind place rfl) lexeme mark⟩

theorem close_release (column : Int) : ∀ (outers : List Int) {reader : TokenReader},
    Keeps front reader →
      closeBlocks.close column (release front reader) outers =
          release front (closeBlocks.close column reader outers) ∧
        Keeps front (closeBlocks.close column reader outers)
  | [], _, keeps => ⟨rfl, keeps⟩
  | outer :: rest, reader, keeps => by
      rw [closeBlocks.close, closeBlocks.close, release_indent]
      by_cases inside : column < reader.indent
      · have pushed := keeps.push .blockEnd reader.cursor.mark
        have closed : Keeps front { reader.push .blockEnd reader.cursor.mark with
            indent := outer, outerIndents := rest } := ⟨pushed.queue, pushed.numbers⟩
        rw [if_pos inside, if_pos inside, release_cursor, push_release keeps]
        exact close_release column rest closed
      · rw [if_neg inside, if_neg inside]
        exact ⟨rfl, keeps⟩

theorem closeBlocks_release (keeps : Keeps front reader) (column : Int) :
    (release front reader).closeBlocks column = release front (reader.closeBlocks column) ∧
      Keeps front (reader.closeBlocks column) := by
  unfold closeBlocks
  rw [release_inFlow]
  split
  · exact ⟨rfl, keeps⟩
  · exact close_release column reader.outerIndents keeps

theorem Keeps.withoutCandidate (keeps : Keeps front reader) :
    Keeps front { reader with candidate := none } := by
  refine ⟨keeps.queue, fun candidate known key isKey => ?_⟩
  rcases List.mem_cons.mp known with rfl | outer
  · exact absurd isKey (Option.not_mem_none key)
  · exact keeps.numbers candidate (List.mem_cons_of_mem _ outer) key isKey

theorem dropCandidate_follows (keeps : Keeps front reader) :
    Follows front (release front reader).dropCandidate reader.dropCandidate := by
  unfold dropCandidate
  rw [release_candidate]
  split
  · split
    · exact .error _
    · exact .ok keeps.withoutCandidate
  · exact .ok keeps

theorem eq_of_dropCandidate {dropped : TokenReader} (ok : reader.dropCandidate = .ok dropped) :
    dropped = { reader with candidate := none } := by
  unfold dropCandidate at ok
  split at ok
  · split at ok
    · cases ok
    · cases ok
      rfl
  · rename_i none
    cases ok
    rw [← none]

theorem saveCandidate_follows (keeps : Keeps front reader) :
    Follows front (release front reader).saveCandidate reader.saveCandidate := by
  unfold saveCandidate
  rw [release_keyAllowed]
  split
  · have enough := keeps.length_le
    have number : (release front reader).released + (release front reader).queue.length =
        reader.released + reader.queue.length := by
      simp [release]
      omega
    rw [number]
    refine (dropCandidate_follows keeps).bind fun dropped ok kept => ?_
    have same := eq_of_dropCandidate ok
    have saved (required : Bool) : Keeps front { dropped with
        candidate := some ⟨required, reader.released + reader.queue.length, reader.cursor.mark⟩ } := by
      refine ⟨kept.queue, fun candidate known key isKey => ?_⟩
      rcases List.mem_cons.mp known with rfl | outer
      · obtain rfl := Option.mem_some_iff.mp isKey
        subst same
        exact Nat.add_le_add_left enough _
      · exact kept.numbers candidate (List.mem_cons_of_mem _ outer) key isKey
    exact Follows.ok (saved _)
  · exact .ok keeps

theorem mem_of_keepFresh {cursor : Cursor} {candidate kept : Option KeyCandidate}
    (ok : keepFresh cursor candidate = .ok kept) {key : KeyCandidate} (known : key ∈ kept) :
    key ∈ candidate := by
  unfold keepFresh at ok
  split at ok
  · split at ok
    · split at ok
      · cases ok
      · cases ok
        exact absurd known (Option.not_mem_none key)
    · cases ok
      exact known
  · cases ok
    exact known

theorem dropStale_follows (keeps : Keeps front reader) :
    Follows front (release front reader).dropStale reader.dropStale := by
  refine Follows.bind_same fun outer outerFresh => Follows.bind_same fun candidate fresh => ?_
  have kept : Keeps front { reader with candidate, outerCandidates := outer.reverse } := by
    refine ⟨keeps.queue, fun other known key isKey => ?_⟩
    rcases List.mem_cons.mp known with rfl | isOuter
    · exact keeps.numbers _ List.mem_cons_self key (mem_of_keepFresh fresh isKey)
    · obtain ⟨original, inOuter, same⟩ :=
        exists_of_mem_right (mapM_eq_ok_iff.mp outerFresh) (List.mem_reverse.mp isOuter)
      exact keeps.numbers original (List.mem_cons_of_mem _ (List.mem_reverse.mp inOuter)) key
        (mem_of_keepFresh same isKey)
  exact Follows.ok kept

structure Reaches (cursor later : Cursor) : Prop where
  line : cursor.mark.line ≤ later.mark.line
  index : cursor.mark.index ≤ later.mark.index
  rest : later.rest.length ≤ cursor.rest.length

theorem Reaches.refl (cursor : Cursor) : Reaches cursor cursor :=
  ⟨Nat.le_refl _, Nat.le_refl _, Nat.le_refl _⟩

theorem Reaches.trans {first second third : Cursor} (front : Reaches first second)
    (back : Reaches second third) : Reaches first third :=
  ⟨Nat.le_trans front.line back.line, Nat.le_trans front.index back.index,
    Nat.le_trans back.rest front.rest⟩

theorem reaches_skip (cursor : Cursor) (count : Nat) : Reaches cursor (cursor.skip count) :=
  ⟨Nat.le_refl _, Nat.le_add_right _ _, by simp [Cursor.skip]⟩

theorem reaches_skipBreak (cursor : Cursor) : Reaches cursor cursor.skipBreak :=
  ⟨Nat.le_succ _, Nat.le_add_right _ _, by simp [Cursor.skipBreak]⟩

theorem reaches_skipComment (cursor : Cursor) : Reaches cursor cursor.skipComment := by
  unfold Cursor.skipComment
  split
  · exact reaches_skip cursor _
  · exact .refl cursor

theorem skipToToken_moves (fuel : Nat) (reader : TokenReader) : ∃ cursor allowed,
    (∀ other : TokenReader, other.cursor = reader.cursor → other.keyAllowed = reader.keyAllowed →
      other.inFlow = reader.inFlow →
      skipToToken fuel other = { other with cursor, keyAllowed := allowed }) ∧
    Reaches reader.cursor cursor := by
  induction fuel generalizing reader with
  | zero =>
      refine ⟨reader.cursor, reader.keyAllowed, ?_, .refl _⟩
      intro other cursor allowed _
      rw [← cursor, ← allowed, skipToToken]
  | succ fuel ih =>
      obtain ⟨start, starting⟩ : ∃ start, start =
        if reader.cursor.mark.index == 0 && reader.cursor.isAt '\ufeff' then reader.cursor.skip
        else reader.cursor := ⟨_, rfl⟩
      have fromStart : Reaches reader.cursor start := by
        rw [starting]
        split
        · exact reaches_skip _ _
        · exact .refl _
      obtain ⟨there, reached⟩ : ∃ there, there = (start.skipRun fun c =>
        c == ' ' || ((reader.inFlow || !reader.keyAllowed) && c == '\t')).skipComment := ⟨_, rfl⟩
      have toThere : Reaches reader.cursor there := by
        rw [reached]
        exact fromStart.trans ((reaches_skip _ _).trans (reaches_skipComment _))
      cases lineEnd : there.holdsAt 0 isBreak with
      | true =>
          obtain ⟨cursor, allowed, moves, later⟩ := ih { reader with
            cursor := there.skipBreak
            keyAllowed := reader.keyAllowed || !reader.inFlow }
          refine ⟨cursor, allowed, ?_, toThere.trans ((reaches_skipBreak there).trans later)⟩
          intro other sameCursor sameAllowed sameFlow
          rw [skipToToken]
          simp only [sameCursor, sameAllowed, sameFlow, ← starting, ← reached, lineEnd, if_true]
          exact moves _ rfl rfl sameFlow
      | false =>
          refine ⟨there, reader.keyAllowed, ?_, toThere⟩
          intro other sameCursor sameAllowed sameFlow
          rw [skipToToken]
          simp only [sameCursor, sameAllowed, sameFlow, ← starting, ← reached, lineEnd,
            Bool.false_eq_true, if_false]

theorem skipToToken_release (keeps : Keeps front reader) (fuel : Nat) :
    (release front reader).skipToToken fuel = release front (reader.skipToToken fuel) ∧
      Keeps front (reader.skipToToken fuel) := by
  obtain ⟨cursor, allowed, moves, _⟩ := skipToToken_moves fuel reader
  rw [moves (release front reader) rfl rfl rfl, moves reader rfl rfl rfl]
  exact ⟨rfl, keeps.queue, keeps.numbers⟩

end Release

section Reading

variable (keeps : Keeps front reader)
include keeps

theorem Follows.append (token : Token) :
    Follows front
      (.ok { release front reader with queue := (release front reader).queue ++ [token] })
      (.ok { reader with queue := reader.queue ++ [token] }) := by
  rw [append_release keeps]
  exact .ok (keeps.append token)

theorem Keeps.move (cursor : Cursor) (allowed : Bool) :
    Keeps front { reader with cursor, keyAllowed := allowed } :=
  ⟨keeps.queue, keeps.numbers⟩

theorem leaveBlocks_follows :
    Follows front ((release front reader).closeBlocks (-1)).dropCandidate
      (reader.closeBlocks (-1)).dropCandidate := by
  rw [(closeBlocks_release keeps (-1)).1]
  exact dropCandidate_follows (closeBlocks_release keeps (-1)).2

theorem readStreamEnd_follows :
    Follows front (release front reader).readStreamEnd reader.readStreamEnd :=
  (leaveBlocks_follows (keeps.move _ reader.keyAllowed)).bind fun closed _ kept =>
    Follows.append (kept.move closed.cursor false) _

theorem readDirective_follows :
    Follows front (release front reader).readDirective reader.readDirective :=
  (leaveBlocks_follows keeps).bind fun _ _ kept => Follows.bind_same fun found _ =>
    Follows.append (kept.move found.2.2 false) _

theorem readDocumentMark_follows (lexeme : Lexeme) :
    Follows front ((release front reader).readDocumentMark lexeme)
      (reader.readDocumentMark lexeme) :=
  (leaveBlocks_follows keeps).bind fun _ _ kept => Follows.append (kept.move _ false) _

theorem openFlow_follows (lexeme : Lexeme) :
    Follows front ((release front reader).openFlow lexeme) (reader.openFlow lexeme) := by
  refine (saveCandidate_follows keeps).bind fun saved _ kept => ?_
  have entered : Keeps front { saved with
      candidate := none
      outerCandidates := saved.candidate :: saved.outerCandidates } := by
    refine ⟨kept.queue, fun candidate known key isKey => ?_⟩
    rcases List.mem_cons.mp known with rfl | outer
    · exact absurd isKey (Option.not_mem_none key)
    · exact kept.numbers candidate outer key isKey
  exact Follows.append (entered.move _ true) _

theorem closeFlow_follows (lexeme : Lexeme) :
    Follows front ((release front reader).closeFlow lexeme) (reader.closeFlow lexeme) := by
  refine (dropCandidate_follows keeps).bind fun dropped _ kept => ?_
  rw [release_outerCandidates]
  cases outer : dropped.outerCandidates with
  | nil => exact Follows.append (kept.move _ false) _
  | cons candidate rest =>
      have left : Keeps front { dropped with candidate, outerCandidates := rest } := by
        refine ⟨kept.queue, fun other known => kept.numbers other ?_⟩
        rw [candidates, outer]
        exact List.mem_cons_of_mem _ known
      exact Follows.append (left.move _ false) _

theorem readFlowEntry_follows :
    Follows front (release front reader).readFlowEntry reader.readFlowEntry :=
  (dropCandidate_follows keeps).bind fun _ _ kept => Follows.append (kept.move _ true) _

theorem enterBlock_follows (column : Int) (lexeme : Lexeme) (mark : Mark) :
    Follows front ((release front reader).openBlock column none lexeme mark).dropCandidate
      (reader.openBlock column none lexeme mark).dropCandidate := by
  obtain ⟨same, opened⟩ := openBlock_release keeps none (by simp) column lexeme mark
  rw [same]
  exact dropCandidate_follows opened

theorem readBlockEntry_follows :
    Follows front (release front reader).readBlockEntry reader.readBlockEntry := by
  unfold readBlockEntry
  rw [release_inFlow, release_keyAllowed]
  split
  · exact .error _
  · exact (enterBlock_follows keeps _ _ _).bind fun _ _ kept => Follows.append (kept.move _ true) _

theorem readKey_follows : Follows front (release front reader).readKey reader.readKey := by
  unfold readKey
  rw [release_inFlow, release_keyAllowed]
  split
  · exact .error _
  · exact (enterBlock_follows keeps _ _ _).bind fun entered _ kept =>
      Follows.append (kept.move _ (!entered.inFlow)) _

theorem readValue_follows : Follows front (release front reader).readValue reader.readValue := by
  unfold readValue
  rw [release_candidate, release_inFlow, release_keyAllowed]
  cases found : reader.candidate with
  | some candidate =>
      have behind : reader.released + front.length ≤ candidate.number :=
        keeps.numbers _ List.mem_cons_self candidate found
      have inserted := keeps.insert behind .key candidate.mark
      obtain ⟨same, opened⟩ := openBlock_release inserted (some candidate.number)
        (by rintro _ ⟨⟩; exact behind) candidate.mark.column .blockMappingStart candidate.mark
      dsimp only
      rw [insert_release keeps behind, same]
      exact Follows.append (opened.withoutCandidate.move _ false) _
  | none =>
      obtain ⟨same, opened⟩ := openBlock_release keeps none (by simp) reader.column
        .blockMappingStart reader.cursor.mark
      dsimp only
      split
      · exact .error _
      · rw [release_column, release_cursor, same]
        exact Follows.append (opened.move _ (!TokenReader.inFlow _)) _

theorem readNamed_follows (read : Cursor → Except SyntaxError (Lexeme × Cursor)) :
    Follows front ((release front reader).readNamed read) (reader.readNamed read) :=
  (saveCandidate_follows keeps).bind fun _ _ kept => Follows.bind_same fun found _ =>
    Follows.append (kept.move found.2 false) _

theorem readBlockScalar_follows (folded : Bool) :
    Follows front ((release front reader).readBlockScalar folded)
      (reader.readBlockScalar folded) :=
  (dropCandidate_follows keeps).bind fun _ _ kept => Follows.bind_same fun found _ =>
    Follows.append (kept.move found.2 true) _

theorem readPlain_follows : Follows front (release front reader).readPlain reader.readPlain :=
  (saveCandidate_follows keeps).bind fun _ _ kept => Follows.bind_same fun scalar _ =>
    Follows.append (kept.move scalar.cursor scalar.newLine) _

theorem readTokenAt_follows (c : Char) :
    Follows front ((release front reader).readTokenAt c) (reader.readTokenAt c) :=
  .branch (readDirective_follows keeps) <|
  .branch (readDocumentMark_follows keeps _) <|
  .branch (readDocumentMark_follows keeps _) <|
  .branch (openFlow_follows keeps _) <|
  .branch (openFlow_follows keeps _) <|
  .branch (closeFlow_follows keeps _) <|
  .branch (closeFlow_follows keeps _) <|
  .branch (readFlowEntry_follows keeps) <|
  .branch (readBlockEntry_follows keeps) <|
  .branch (readKey_follows keeps) <|
  .branch (readValue_follows keeps) <|
  .branch (readNamed_follows keeps _) <|
  .branch (readNamed_follows keeps _) <|
  .branch (readNamed_follows keeps _) <|
  .branch (readBlockScalar_follows keeps _) <|
  .branch (readBlockScalar_follows keeps _) <|
  .branch (readNamed_follows keeps _) <|
  .branch (readNamed_follows keeps _) <|
  .branch (readPlain_follows keeps) (.error _)

theorem readToken_follows :
    Follows front (release front reader).readToken reader.readToken := by
  unfold readToken
  rw [release_started]
  split
  · have started : Keeps front { reader with started := true } := ⟨keeps.queue, keeps.numbers⟩
    exact Follows.append started _
  · obtain ⟨skipped, kept⟩ := skipToToken_release keeps (reader.cursor.rest.length + 1)
    rw [release_cursor, skipped]
    refine (dropStale_follows kept).bind fun fresh _ kept => ?_
    rw [release_column, (closeBlocks_release kept fresh.column).1]
    obtain ⟨same, kept⟩ := closeBlocks_release kept fresh.column
    dsimp only
    rw [release_cursor]
    split
    · exact readStreamEnd_follows kept
    · exact readTokenAt_follows kept _

end Reading

/-! Giving up stale candidates before the next token is looked for is as good as doing it after. -/

theorem dropStale_eq_ok_iff {fresh : TokenReader} :
    reader.dropStale = .ok fresh ↔ ∃ candidate outer,
      keepFresh reader.cursor reader.candidate = .ok candidate ∧
      List.Forall₂ (fun place kept => keepFresh reader.cursor place = .ok kept)
        reader.outerCandidates outer ∧
      fresh = { reader with candidate, outerCandidates := outer } := by
  rw [dropStale, bind_eq_ok_iff]
  constructor
  · rintro ⟨outer, outerFresh, later⟩
    obtain ⟨candidate, isFresh, same⟩ := bind_eq_ok_iff.mp later
    have pairs := List.rel_reverse (mapM_eq_ok_iff.mp outerFresh)
    rw [List.reverse_reverse] at pairs
    exact ⟨candidate, outer.reverse, isFresh, pairs, (Except.ok.inj same).symm⟩
  · rintro ⟨candidate, outer, isFresh, pairs, rfl⟩
    refine ⟨outer.reverse, mapM_eq_ok_iff.mpr (List.rel_reverse pairs), ?_⟩
    exact bind_eq_ok_iff.mpr ⟨candidate, isFresh, by rw [List.reverse_reverse]; rfl⟩

theorem dropStale_of_none (free : reader.candidate = none) (outside : reader.outerCandidates = []) :
    reader.dropStale = .ok reader := by
  refine dropStale_eq_ok_iff.mpr ⟨none, [], by rw [free]; rfl, by rw [outside]; exact .nil, ?_⟩
  rw [← free, ← outside]

theorem isStale_of_reaches {cursor later : Cursor} (reaches : Reaches cursor later)
    {key : KeyCandidate} (stale : isStale cursor key = true) : isStale later key = true := by
  simp only [isStale, Bool.or_eq_true, decide_eq_true_eq] at stale ⊢
  exact stale.imp (fun line => Nat.lt_of_lt_of_le line reaches.line)
    fun index => Nat.lt_of_lt_of_le index reaches.index

theorem keepFresh_before {cursor later : Cursor} (reaches : Reaches cursor later)
    {candidate kept : Option KeyCandidate} (fresh : keepFresh later candidate = .ok kept) :
    ∃ between, keepFresh cursor candidate = .ok between ∧ keepFresh later between = .ok kept := by
  cases candidate with
  | none => exact ⟨none, rfl, fresh⟩
  | some key =>
      cases stale : isStale cursor key with
      | false => exact ⟨some key, by simp [keepFresh, stale], fresh⟩
      | true =>
          have staleLater := isStale_of_reaches reaches stale
          cases required : key.required with
          | true => simp [keepFresh, staleLater, required] at fresh
          | false =>
              simp only [keepFresh, staleLater, required, if_true, Bool.false_eq_true, if_false]
                at fresh
              exact ⟨none, by simp [keepFresh, stale, required], fresh⟩

theorem keepFresh_before_all {cursor later : Cursor} (reaches : Reaches cursor later)
    {places kept : List (Option KeyCandidate)}
    (fresh : List.Forall₂ (fun place kept => keepFresh later place = .ok kept) places kept) :
    ∃ between, List.Forall₂ (fun place kept => keepFresh cursor place = .ok kept) places between ∧
      List.Forall₂ (fun place kept => keepFresh later place = .ok kept) between kept := by
  induction fresh with
  | nil => exact ⟨[], .nil, .nil⟩
  | cons here _ ih =>
      obtain ⟨first, before, after⟩ := keepFresh_before reaches here
      obtain ⟨rest, restBefore, restAfter⟩ := ih
      exact ⟨first :: rest, .cons before restBefore, .cons after restAfter⟩

def findToken (reader : TokenReader) : Except SyntaxError TokenReader :=
  (reader.skipToToken (reader.cursor.rest.length + 1)).dropStale

def readHere (reader : TokenReader) : Except SyntaxError TokenReader :=
  let reader := reader.closeBlocks reader.column
  match reader.cursor.peek? with
  | none => reader.readStreamEnd
  | some c => reader.readTokenAt c

theorem readToken_of_started (started : reader.started = true) :
    reader.readToken = reader.findToken >>= readHere := by
  rw [readToken, started]
  rfl

theorem findToken_reaches {found : TokenReader} (ok : reader.findToken = .ok found) :
    Reaches reader.cursor found.cursor ∧ found.started = reader.started := by
  obtain ⟨cursor, allowed, moves, reaches⟩ :=
    skipToToken_moves (reader.cursor.rest.length + 1) reader
  rw [findToken, moves reader rfl rfl rfl] at ok
  obtain ⟨candidate, outer, _, _, rfl⟩ := dropStale_eq_ok_iff.mp ok
  exact ⟨reaches, rfl⟩

theorem readToken_dropStale {next : TokenReader} (started : reader.started = true)
    (read : reader.readToken = .ok next) :
    ∃ fresh, reader.dropStale = .ok fresh ∧ fresh.readToken = .ok next := by
  obtain ⟨cursor, allowed, moves, reaches⟩ :=
    skipToToken_moves (reader.cursor.rest.length + 1) reader
  rw [readToken_of_started started, findToken, moves reader rfl rfl rfl, bind_eq_ok_iff] at read
  obtain ⟨there, dropped, later⟩ := read
  obtain ⟨candidate, outer, isFresh, pairs, rfl⟩ := dropStale_eq_ok_iff.mp dropped
  obtain ⟨between, before, after⟩ := keepFresh_before reaches isFresh
  obtain ⟨outerBetween, outerBefore, outerAfter⟩ := keepFresh_before_all reaches pairs
  refine ⟨_, dropStale_eq_ok_iff.mpr ⟨between, outerBetween, before, outerBefore, rfl⟩, ?_⟩
  have sameFlow : outerBetween.isEmpty = reader.outerCandidates.isEmpty := by
    rw [Bool.eq_iff_iff, List.isEmpty_iff_length_eq_zero, List.isEmpty_iff_length_eq_zero,
      outerBefore.length_eq]
  have moved := moves { reader with candidate := between, outerCandidates := outerBetween } rfl rfl
    (by simp [inFlow, sameFlow])
  refine (readToken_of_started (by exact started)).trans (bind_eq_ok_iff.mpr ⟨_, ?_, later⟩)
  exact (congrArg TokenReader.dropStale moved).trans
    (dropStale_eq_ok_iff.mpr ⟨candidate, outer, after, outerAfter, rfl⟩)

/-! Reading to the end, releasing nothing or everything that can be released. -/

/-- Reading tokens without releasing any ends after so many steps, with these tokens in the queue. -/
inductive Finishes : Nat → TokenReader → List Token → Prop where
  | done {reader : TokenReader} (free : reader.candidate = none)
      (outside : reader.outerCandidates = []) : Finishes 0 reader reader.queue
  | step {reader next : TokenReader} {steps : Nat} {tokens : List Token}
      (started : reader.queue ≠ [] → reader.started = true) (read : reader.readToken = .ok next)
      (enough : steps ≤ reader.cursor.rest.length + 1) (later : Finishes steps next tokens) :
      Finishes (steps + 1) reader tokens

namespace Finishes

variable {steps : Nat} {tokens : List Token}

theorem steps_le (finishes : Finishes steps reader tokens) :
    steps ≤ reader.cursor.rest.length + 2 := by
  cases finishes with
  | done => exact Nat.zero_le _
  | step _ _ enough _ => exact Nat.succ_le_succ enough

theorem release (finishes : Finishes steps reader tokens) (keeps : Keeps front reader) :
    front <+: tokens ∧ Finishes steps (release front reader) (tokens.drop front.length) := by
  induction finishes with
  | done free outside => exact ⟨keeps.queue, .done free outside⟩
  | step started read enough _ ih =>
      obtain ⟨same, kept⟩ := readToken_follows keeps
      rw [read] at same
      obtain ⟨isPrefix, later⟩ := ih (kept _ read)
      refine ⟨isPrefix, .step (fun filled => started ?_) same enough later⟩
      rintro empty
      exact filled (by simp [TokenReader.release, empty])

end Finishes

theorem Keeps.first {token : Token} {queue : List Token} (keeps : Keeps [] reader)
    (filled : reader.queue = token :: queue) (free : reader.mustWait = false) :
    Keeps [token] reader := by
  refine ⟨⟨queue, filled.symm⟩, fun candidate known key isKey => ?_⟩
  have bound := keeps.numbers candidate known key isKey
  have other := List.any_eq_false.mp free candidate known
  obtain rfl := Option.mem_def.mp isKey
  simp only [Option.elim_some, beq_iff_eq, List.length_nil, Nat.add_zero] at other bound
  exact Nat.lt_of_le_of_ne bound fun same => other same.symm

namespace Finishes

variable {steps : Nat} {tokens : List Token}

theorem fill (finishes : Finishes steps reader tokens) :
    ∀ {fuel : Nat}, steps < fuel → Keeps [] reader → tokens ≠ [] →
      ∃ filled, reader.fill fuel = .ok filled ∧ ∃ token queue remaining,
        filled.queue = token :: queue ∧ Keeps [token] filled ∧ Finishes remaining filled tokens := by
  induction finishes with
  | @done reader free outside =>
      intro fuel enough keeps filled
      obtain ⟨fuel, rfl⟩ := Nat.exists_eq_add_one_of_ne_zero (Nat.ne_of_gt enough)
      obtain ⟨token, queue, first⟩ := List.exists_cons_of_ne_nil filled
      have waits : reader.mustWait = false := by simp [mustWait, free, outside]
      refine ⟨reader, ?_, token, queue, 0, first, keeps.first first waits, .done free outside⟩
      simp only [TokenReader.fill, first, List.isEmpty_cons, Bool.false_eq_true, if_false,
        dropStale_of_none free outside, ok_bind, waits]
      rfl
  | @step reader next steps tokens started read enough later ih =>
      intro fuel bound keeps filled
      obtain ⟨fuel, rfl⟩ := Nat.exists_eq_add_one_of_ne_zero (Nat.ne_of_gt (Nat.zero_lt_of_lt bound))
      have kept : Keeps [] next := (readToken_follows keeps).keeps next read
      have goesOn := ih (Nat.lt_of_succ_lt_succ bound) kept filled
      cases first : reader.queue with
      | nil =>
          simpa [TokenReader.fill, first, read, ok_bind] using goesOn
      | cons token queue =>
          have isStarted := started (by simp [first])
          obtain ⟨fresh, dropped, readAgain⟩ := readToken_dropStale isStarted read
          have keptFresh := (dropStale_follows keeps).keeps fresh dropped
          simp only [TokenReader.fill, first, List.isEmpty_cons, Bool.false_eq_true, if_false, dropped,
            ok_bind]
          cases waits : fresh.mustWait with
          | true => simpa [readAgain, ok_bind] using goesOn
          | false =>
              obtain ⟨candidate, outer, _, _, rfl⟩ := dropStale_eq_ok_iff.mp dropped
              exact ⟨_, rfl, token, queue, steps + 1, first, keptFresh.first first waits,
                .step (fun _ => isStarted) readAgain enough later⟩

theorem fill_here (finishes : Finishes steps reader tokens) (keeps : Keeps [] reader)
    (filled : tokens ≠ []) :
    ∃ filled, reader.fill (reader.cursor.rest.length + 4) = .ok filled ∧
      ∃ token queue remaining, filled.queue = token :: queue ∧ Keeps [token] filled ∧
        Finishes remaining filled tokens :=
  finishes.fill (Nat.lt_of_le_of_lt finishes.steps_le (by omega)) keeps filled

/-- Releasing tokens as soon as possible gives the tokens that stand in the queue when everything has
been read without releasing any. -/
theorem tokensFrom {last : Token} (ends : last.lexeme = .streamEnd) :
    ∀ {before : List Token}, (∀ token ∈ before, token.lexeme ≠ .streamEnd) →
      ∀ {steps : Nat} {reader : TokenReader}, Finishes steps reader (before ++ [last]) →
      Keeps [] reader → ∀ {fuel : Nat}, before.length < fuel →
      reader.tokensFrom fuel = (before ++ [last], none) := by
  intro before
  induction before with
  | nil =>
      intro _ steps reader finishes keeps fuel enough
      obtain ⟨fuel, rfl⟩ := Nat.exists_eq_add_one_of_ne_zero (Nat.ne_of_gt enough)
      obtain ⟨filled, full, token, queue, _, first, kept, again⟩ :=
        finishes.fill_here keeps (by simp)
      obtain ⟨rfl, _⟩ := List.cons_prefix_cons.mp (again.release kept).1
      simp only [TokenReader.tokensFrom, full, first, ends, if_true, List.nil_append]
  | cons head before ih =>
      intro others steps reader finishes keeps fuel enough
      obtain ⟨fuel, rfl⟩ := Nat.exists_eq_add_one_of_ne_zero (Nat.ne_of_gt (Nat.zero_lt_of_lt enough))
      obtain ⟨filled, full, token, queue, remaining, first, kept, again⟩ :=
        finishes.fill_here keeps (by simp)
      obtain ⟨inFront, later⟩ := again.release kept
      obtain ⟨rfl, _⟩ := List.cons_prefix_cons.mp inFront
      have released : TokenReader.release [token] filled =
          { filled with queue := queue, released := filled.released + 1 } := by
        simp [TokenReader.release, first]
      have keptLater : Keeps [] (TokenReader.release [token] filled) :=
        ⟨List.nil_prefix, fun candidate known => kept.numbers candidate known⟩
      have rest := ih (fun other known => others other (List.mem_cons_of_mem _ known)) later keptLater
        (Nat.lt_of_succ_lt_succ enough)
      rw [released] at rest
      simp only [TokenReader.tokensFrom, full, first, others token List.mem_cons_self, if_false, rest,
        List.cons_append]

end Finishes

def opened (text : List Char) : TokenReader :=
  { cursor := { rest := text }, started := true, queue := [⟨.streamStart, {}, {}⟩] }

theorem tokens_of_finishes {text : List Char} {steps : Nat} {before : List Token} {last : Token}
    (finishes : Finishes steps (opened text) (before ++ [last])) (ends : last.lexeme = .streamEnd)
    (others : ∀ token ∈ before, token.lexeme ≠ .streamEnd) (enough : steps ≤ text.length + 1)
    (few : before.length < 4 * text.length + 8) : tokens text = (before ++ [last], none) := by
  have starts : Finishes (steps + 1) { cursor := { rest := text } } (before ++ [last]) :=
    .step (fun filled => absurd rfl filled) rfl enough finishes
  refine starts.tokensFrom ends others ⟨List.nil_prefix, ?_⟩ few
  intro candidate known key isKey
  obtain rfl := List.mem_singleton.mp known
  exact absurd isKey (Option.not_mem_none key)

end PipelineAdvisor.Yaml.TokenReader
