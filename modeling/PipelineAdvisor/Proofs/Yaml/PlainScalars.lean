import Mathlib.Tactic.Common
import PipelineAdvisor.Proofs.Number.DecimalText
import PipelineAdvisor.Proofs.Yaml.Keys

/-!
Plain scalars read back. A text that may stand plain in front of a character is read as one scalar
with exactly its own characters, whatever follows.
-/

namespace PipelineAdvisor.Yaml

/-- Whether characters in front of `next` go on with a plain scalar: no line break, no colon in front
of a blank, no hash sign behind a blank, and no blank at the end. -/
def continuesPlain (next : Char) : List Char → Bool
  | [] => true
  | c :: rest =>
    !isBreak c && !(c == ':' && isSpaceOrBreak (rest.headD next)) &&
      !(isSpaceOrTab c && rest.head?.elim true (· == '#')) && continuesPlain next rest

/-- Whether characters in front of `next` begin a plain scalar: not with a blank, nor with an
indicator unless it is one that counts only in front of a blank. -/
def startsPlain (next : Char) : List Char → Bool
  | [] => false
  | c :: rest =>
    !isSpaceOrBreak c && (!TokenReader.isIndicator c ||
      (['-', '?', ':'].contains c && !isSpaceOrBreak (rest.headD next)))

def standsPlain (next : Char) (text : List Char) : Bool :=
  startsPlain next text && continuesPlain next text

/-- Whether a line can begin with this text at the left margin: no mark of a document or of the byte
order stands there. -/
def startsMargin (text : List Char) : Bool :=
  !(['-', '-', '-'].isPrefixOf text || ['.', '.', '.'].isPrefixOf text || ['\ufeff'].isPrefixOf text)

namespace Cursor

@[simp] theorem skip_rest (cursor : Cursor) (count : Nat) :
    (cursor.skip count).rest = cursor.rest.drop count := rfl

@[simp] theorem skip_column (cursor : Cursor) (count : Nat) :
    (cursor.skip count).mark.column = cursor.mark.column + count := rfl

@[simp] theorem skip_line (cursor : Cursor) (count : Nat) :
    (cursor.skip count).mark.line = cursor.mark.line := rfl

@[simp] theorem skip_index (cursor : Cursor) (count : Nat) :
    (cursor.skip count).mark.index = cursor.mark.index + count := rfl

@[simp] theorem skip_zero (cursor : Cursor) : cursor.skip 0 = cursor := rfl

theorem skip_skip (cursor : Cursor) (first second : Nat) :
    (cursor.skip first).skip second = cursor.skip (first + second) := by
  simp [skip, Nat.add_assoc]

def Counted (cursor : Cursor) : Prop :=
  cursor.mark.column ≤ cursor.mark.index

theorem Counted.skip {cursor : Cursor} (counted : cursor.Counted) (count : Nat) :
    (cursor.skip count).Counted :=
  Nat.add_le_add_right counted count

theorem counted_skipBreak (cursor : Cursor) : cursor.skipBreak.Counted :=
  Nat.zero_le _

theorem Counted.skipComment {cursor : Cursor} (counted : cursor.Counted) :
    cursor.skipComment.Counted := by
  rw [Cursor.skipComment]
  split
  · exact counted.skip _
  · exact counted

theorem holdsAt_zero (cursor : Cursor) (test : Char → Bool) (orEnd : Bool) :
    cursor.holdsAt 0 test orEnd = cursor.rest.head?.elim orEnd test := rfl

end Cursor

namespace Scalar

variable {next : Char} {text follow : List Char}

/-- `follow` stands behind a plain scalar and ends it, and it begins with `next` or, if `next` is a
line feed, may be empty. -/
structure EndsPlain (next : Char) (follow : List Char) : Prop where
  head : follow.headD '\n' = next
  run : plainRun false follow = ([], false)

theorem EndsPlain.nil : EndsPlain '\n' [] := ⟨rfl, rfl⟩

theorem EndsPlain.lineFeed (rest : List Char) : EndsPlain '\n' ('\n' :: rest) := ⟨rfl, rfl⟩

theorem EndsPlain.colon {rest : List Char} (blank : rest.head?.elim true isSpaceOrBreak = true) :
    EndsPlain ':' (':' :: rest) := by
  refine ⟨rfl, ?_⟩
  have visible : isSpaceOrBreak ':' = false := rfl
  simp [plainRun, blank, visible]

theorem EndsPlain.blank_iff (ends : EndsPlain next follow) (rest : List Char) :
    (rest ++ follow).head?.elim true isSpaceOrBreak = isSpaceOrBreak (rest.headD next) := by
  cases rest with
  | cons c rest => rfl
  | nil =>
      rw [← ends.head]
      cases follow with
      | nil => rfl
      | cons c follow => rfl

theorem plainRun_append (ends : EndsPlain next follow) :
    ∀ {text : List Char}, continuesPlain next text = true →
      plainRun false (text ++ follow) = (text.takeWhile (!isSpaceOrBreak ·), false)
  | [], _ => ends.run
  | c :: rest, goesOn => by
      simp only [continuesPlain, Bool.and_eq_true, Bool.not_eq_true'] at goesOn
      obtain ⟨⟨⟨_, colon⟩, _⟩, later⟩ := goesOn
      rw [← ends.blank_iff rest] at colon
      rw [List.cons_append, plainRun, List.takeWhile_cons]
      cases blank : isSpaceOrBreak c with
      | true => simp
      | false =>
          simp only [Bool.false_and, Bool.false_eq_true, if_false, colon, plainRun_append ends later,
            Bool.not_false, if_true]

theorem continuesPlain_of_append : ∀ (before : List Char) {behind : List Char},
    continuesPlain next (before ++ behind) = true → continuesPlain next behind = true
  | [], _, goesOn => goesOn
  | _ :: rest, _, goesOn => by
      rw [List.cons_append, continuesPlain, Bool.and_eq_true] at goesOn
      exact continuesPlain_of_append rest goesOn.2

def IsVisible (c : Char) : Prop :=
  isSpaceOrBreak c = false ∧ c ≠ '#'

def StartsVisibly (text : List Char) : Prop :=
  ∃ c rest, text = c :: rest ∧ IsVisible c

theorem StartsVisibly.append {text : List Char} (starts : StartsVisibly text) (more : List Char) :
    StartsVisibly (text ++ more) := by
  obtain ⟨c, rest, rfl, visible⟩ := starts
  exact ⟨c, rest ++ more, rfl, visible⟩

theorem StartsVisibly.ne_nil {text : List Char} (starts : StartsVisibly text) : text ≠ [] := by
  obtain ⟨c, rest, rfl, _⟩ := starts
  exact List.cons_ne_nil c rest

theorem exists_visible_of_blank :
    ∀ {text : List Char} {c : Char}, continuesPlain next (c :: text) = true →
      isSpaceOrTab c = true → ∃ blanks d rest, text = blanks ++ d :: rest ∧
        (∀ b ∈ blanks, isSpaceOrTab b = true) ∧ IsVisible d
  | [], c, goesOn, blank => by simp [continuesPlain, blank] at goesOn
  | d :: rest, c, goesOn, blank => by
      rw [continuesPlain, Bool.and_eq_true, Bool.and_eq_true] at goesOn
      obtain ⟨⟨_, noComment⟩, later⟩ := goesOn
      cases again : isSpaceOrTab d with
      | true =>
          obtain ⟨blanks, e, others, rfl, each, visible⟩ := exists_visible_of_blank later again
          exact ⟨d :: blanks, e, others, rfl, by simpa [again] using each, visible⟩
      | false =>
          have noBreak : isBreak d = false := by
            simp only [continuesPlain, Bool.and_eq_true, Bool.not_eq_true'] at later
            exact later.1.1.1
          refine ⟨[], d, rest, rfl, by simp, by simp [isSpaceOrBreak, again, noBreak], ?_⟩
          rintro rfl
          simp [blank] at noComment

/-! Gaps: blanks within a line, and a line feed with the indentation of the next line. -/

theorem readGap_blanks {limit : Option (Nat × Mark)} {rest : List Char}
    (stops : ∀ c ∈ rest.head?, isSpaceOrBreak c = false) :
    ∀ {blanks : List Char}, (∀ c ∈ blanks, isSpaceOrTab c = true) → ∀ {fuel : Nat},
      blanks.length ≤ fuel → ∀ (before : List Char) {cursor : Cursor},
      cursor.rest = blanks ++ rest →
      readGap limit fuel (.blanks before) cursor =
        .ok (.blanks (before ++ blanks), cursor.skip blanks.length)
  | [], _, 0, _, before, cursor, _ => by simp [readGap]
  | [], _, fuel + 1, _, before, cursor, front => by
      rw [List.nil_append] at front
      rw [readGap, front]
      cases rest with
      | nil => simp
      | cons c others =>
          have solid := stops c rfl
          rw [isSpaceOrBreak, Bool.or_eq_false_iff] at solid
          simp [solid]
  | c :: blanks, each, fuel + 1, enough, before, cursor, front => by
      have blank := each c List.mem_cons_self
      have later : readGap limit fuel (.blanks (before ++ [c])) cursor.skip =
          .ok (.blanks (before ++ [c] ++ blanks), cursor.skip.skip blanks.length) :=
        readGap_blanks stops (fun d known => each d (List.mem_cons_of_mem c known))
          (Nat.le_of_succ_le_succ enough) _ (by simp [front])
      simp only [readGap, front, List.cons_append, blank, if_true, later]
      simp [Cursor.skip_skip, Nat.add_comm]

def spaces (column : Nat) : List Char :=
  List.replicate column ' '

theorem readGap_spaces {limit : Option (Nat × Mark)} {rest first more : List Char}
    (stops : ∀ c ∈ rest.head?, isSpaceOrBreak c = false) :
    ∀ {column fuel : Nat}, column ≤ fuel → ∀ {cursor : Cursor},
      cursor.rest = spaces column ++ rest →
      readGap limit fuel (.breaks first more) cursor = .ok (.breaks first more, cursor.skip column)
  | 0, 0, _, cursor, _ => by simp [readGap]
  | 0, fuel + 1, _, cursor, front => by
      have front : cursor.rest = rest := front
      rw [readGap, front]
      cases rest with
      | nil => simp
      | cons c others =>
          have solid := stops c rfl
          rw [isSpaceOrBreak, Bool.or_eq_false_iff] at solid
          simp [solid]
  | column + 1, fuel + 1, enough, cursor, front => by
      have front : cursor.rest = ' ' :: (spaces column ++ rest) := front
      have later : readGap limit fuel (.breaks first more) cursor.skip =
          .ok (.breaks first more, cursor.skip.skip column) :=
        readGap_spaces stops (Nat.le_of_succ_le_succ enough) (by simp [front])
      have blank : isSpaceOrTab ' ' = true := rfl
      cases limit with
      | none => simp [readGap, front, blank, later, Cursor.skip_skip, Nat.add_comm]
      | some limit => simp [readGap, front, blank, later, Cursor.skip_skip, Nat.add_comm]

theorem skipBreak_lineFeed {cursor : Cursor} {rest : List Char} (front : cursor.rest = '\n' :: rest) :
    cursor.skipBreak.rest = rest := by
  simp [Cursor.skipBreak, front]

theorem skip_spaces {column : Nat} {cursor : Cursor} {rest : List Char}
    (front : cursor.rest = spaces column ++ rest) : (cursor.skip column).rest = rest := by
  simp [front, spaces]

theorem nextLine_rest {column : Nat} {cursor : Cursor} {rest : List Char}
    (front : cursor.rest = '\n' :: (spaces column ++ rest)) :
    (cursor.skipBreak.skip column).rest = rest :=
  skip_spaces (skipBreak_lineFeed front)

theorem nextLine_column (cursor : Cursor) (column : Nat) :
    (cursor.skipBreak.skip column).mark.column = column :=
  Nat.zero_add column

/-- What stands behind a plain scalar, whether a new line follows it, and where reading goes on: the
scalar ends on its line, or the next line stands left of `indent` or is a comment. -/
inductive Leaves (indent : Nat) (cursor : Cursor) : Bool → Cursor → Prop where
  | sameLine (solid : cursor.holdsAt 0 isSpaceOrBreak = false) : Leaves indent cursor false cursor
  | nextLine {column : Nat} {rest : List Char} (front : cursor.rest = '\n' :: (spaces column ++ rest))
      (solid : ∀ c ∈ rest.head?, isSpaceOrBreak c = false)
      (left : column < indent ∨ rest.head? = some '#') :
      Leaves indent cursor true (cursor.skipBreak.skip column)

theorem Leaves.readGap {indent : Nat} {cursor after : Cursor} (leaves : Leaves indent cursor true after)
    (start : Mark) :
    cursor.holdsAt 0 isSpaceOrBreak = true ∧
      (after.mark.column < indent ∨ after.isAt '#' = true) ∧
      Scalar.readGap (some (indent, start)) cursor.rest.length (.blanks []) cursor =
        .ok (.breaks ['\n'] [], after) := by
  cases leaves with
  | @nextLine column rest front solid left =>
      refine ⟨by simp [Cursor.holdsAt_zero, front]; rfl, ?_, ?_⟩
      · exact left.imp (nextLine_column cursor column).trans_lt fun comment => by
          rw [Cursor.isAt, Cursor.peek?, nextLine_rest front, comment]
          rfl
      have enough : column ≤ (spaces column ++ rest).length := by simp [spaces]
      have lineFeed : isSpaceOrTab '\n' = false ∧ isBreak '\n' = true := ⟨rfl, rfl⟩
      rw [front, List.length_cons, Scalar.readGap]
      simp only [front, lineFeed, Bool.false_eq_true, if_false, if_true]
      rw [readGap_spaces solid enough (skipBreak_lineFeed front)]
      simp [Cursor.breakText, front, lineFeed]

section Parts

variable {indent : Nat} {start : Mark} {newLine : Bool} {after : Cursor}

theorem exists_run : ∀ text : List Char, ∃ run behind, text = run ++ behind ∧
    (∀ c ∈ run, isSpaceOrBreak c = false) ∧ ∀ c ∈ behind.head?, isSpaceOrBreak c = true
  | [] => ⟨[], [], rfl, by simp, by simp⟩
  | c :: rest => by
      cases blank : isSpaceOrBreak c with
      | true => exact ⟨[], c :: rest, rfl, by simp, by simpa using blank⟩
      | false =>
          obtain ⟨run, behind, rfl, each, stops⟩ := exists_run rest
          exact ⟨c :: run, behind, rfl, by simpa [blank] using each, stops⟩

theorem exists_parts {text : List Char} (goesOn : continuesPlain next text = true) :
    ∃ run behind, text = run ++ behind ∧ (∀ c ∈ run, isSpaceOrBreak c = false) ∧
      (behind = [] ∨ ∃ b others d rest, behind = b :: (others ++ d :: rest) ∧
        isSpaceOrBreak b = true ∧ (∀ blank ∈ b :: others, isSpaceOrTab blank = true) ∧
        IsVisible d) := by
  obtain ⟨run, behind, rfl, each, stops⟩ := exists_run text
  refine ⟨run, behind, rfl, each, ?_⟩
  cases behind with
  | nil => exact .inl rfl
  | cons b more =>
      have blank : isSpaceOrBreak b = true := stops b rfl
      have later : continuesPlain next (b :: more) = true := continuesPlain_of_append run goesOn
      have noBreak : isBreak b = false := by
        simp only [continuesPlain, Bool.and_eq_true, Bool.not_eq_true'] at later
        exact later.1.1.1
      have tab : isSpaceOrTab b = true := by simpa [isSpaceOrBreak, noBreak] using blank
      obtain ⟨others, d, rest, rfl, eachBlank, visible⟩ := exists_visible_of_blank later tab
      exact .inr ⟨b, others, d, rest, rfl, blank, List.forall_mem_cons.mpr ⟨tab, eachBlank⟩, visible⟩

/-- A run of visible characters stands at the cursor, and it begins neither a comment nor the mark of
a document. -/
structure AtRun (cursor : Cursor) (run : List Char) : Prop where
  ran : plainRun false cursor.rest = (run, false)
  filled : run.isEmpty = false
  noStart : cursor.atDocumentMark '-' = false
  noEnd : cursor.atDocumentMark '.' = false
  noComment : cursor.isAt '#' = false

section Steps

variable {fuel : Nat} {cursor : Cursor} {run : List Char} {before blanks : List Char} {stop : Mark}

theorem AtRun.plainParts_last (here : AtRun cursor run)
    (leaves : Leaves indent (cursor.skip run.length) newLine after) :
    plainParts false indent start (fuel + 2) before stop (.blanks blanks) cursor =
      .ok ⟨before ++ blanks ++ run, (cursor.skip run.length).mark, newLine, after⟩ := by
  rw [plainParts]
  simp only [here.noStart, here.noEnd, here.noComment, Bool.or_self, Bool.false_eq_true, if_false,
    here.ran, here.filled, Gap.folded]
  cases newLine with
  | false =>
      cases leaves with
      | sameLine solid => simp only [solid, Bool.not_false, if_true]; rfl
  | true =>
      obtain ⟨blank, left, gap⟩ := leaves.readGap start
      simp only [blank, Bool.not_true, Bool.false_eq_true, if_false, gap, ok_bind, Bool.not_false,
        Bool.true_and, decide_eq_true_eq]
      split
      · rfl
      · next right =>
        -- The next line is not too far left, so it is a comment: one more step sees it.
        rw [plainParts, left.resolve_left right, Bool.or_true, if_pos rfl]
        rfl

theorem AtRun.plainParts_blanks (here : AtRun cursor run) {b d : Char} {others rest : List Char}
    (there : (cursor.skip run.length).rest = b :: others ++ d :: rest)
    (blank : isSpaceOrBreak b = true) (each : ∀ c ∈ b :: others, isSpaceOrTab c = true)
    (visible : isSpaceOrBreak d = false)
    (inside : indent ≤ cursor.mark.column + run.length + (others.length + 1)) :
    plainParts false indent start (fuel + 1) before stop (.blanks blanks) cursor =
      plainParts false indent start fuel (before ++ blanks ++ run) (cursor.skip run.length).mark
        (.blanks (b :: others)) ((cursor.skip run.length).skip (others.length + 1)) := by
  have pauses : (cursor.skip run.length).holdsAt 0 isSpaceOrBreak = true := by
    rw [Cursor.holdsAt_zero, there]
    exact blank
  have gap : readGap (some (indent, start)) (cursor.skip run.length).rest.length (.blanks [])
      (cursor.skip run.length) =
        .ok (.blanks (b :: others), (cursor.skip run.length).skip (others.length + 1)) :=
    readGap_blanks (by simp [visible]) each (by rw [there]; simp) [] there
  have notLeft : ¬(cursor.skip run.length |>.skip (others.length + 1)).mark.column < indent :=
    Nat.not_lt.mpr inside
  conv_lhs => rw [plainParts]
  simp only [here.noStart, here.noEnd, here.noComment, Bool.or_self, Bool.false_eq_true, if_false,
    here.ran, here.filled, Gap.folded, pauses, Bool.not_true, gap, ok_bind, Bool.not_false,
    Bool.true_and, notLeft, decide_false]

end Steps

/-- The parts of a plain scalar are put together to its text. The induction is on the fuel: each step
reads a run of visible characters and the blanks between it and the next one. -/
theorem plainParts_read (ends : EndsPlain next follow) :
    ∀ {fuel : Nat} {c : Char} {rest : List Char}, rest.length + 1 < fuel → IsVisible c →
      continuesPlain next (c :: rest) = true → ∀ {cursor : Cursor},
      cursor.rest = c :: rest ++ follow → indent ≤ cursor.mark.column + 1 →
      cursor.atDocumentMark '-' = false → cursor.atDocumentMark '.' = false →
      Leaves indent (cursor.skip (rest.length + 1)) newLine after →
      ∀ (before blanks : List Char) (stop : Mark),
      plainParts false indent start fuel before stop (.blanks blanks) cursor =
        .ok ⟨before ++ blanks ++ c :: rest, (cursor.skip (rest.length + 1)).mark, newLine, after⟩ := by
  intro fuel
  induction fuel with
  | zero => intro c rest enough; exact absurd enough (Nat.not_lt_zero _)
  | succ fuel ih =>
      intro c rest enough visible goesOn cursor front inside noStart noEnd leaves before blanks stop
      have goesOn' : continuesPlain next rest = true := continuesPlain_of_append [c] goesOn
      obtain ⟨run, behind, rfl, each, ending⟩ := exists_parts goesOn'
      have stops : ∀ b ∈ behind.head?, isSpaceOrBreak b = true := by
        rcases ending with rfl | ⟨b, others, d, rest, rfl, blank, -, -⟩
        · simp
        · simpa using blank
      have here : AtRun cursor (c :: run) := by
        refine ⟨?_, rfl, noStart, noEnd, by simp [Cursor.isAt, Cursor.peek?, front, visible.2]⟩
        rw [front, plainRun_append ends goesOn, ← List.cons_append, takeWhile_run]
        · simpa [visible.1] using each
        · simpa using stops
      rcases ending with rfl | ⟨b, others, d, rest, rfl, blank, eachBlank, visible'⟩
      · rw [List.append_nil] at leaves ⊢
        obtain ⟨fuel, rfl⟩ := Nat.exists_eq_add_one_of_ne_zero (by omega : fuel ≠ 0)
        exact here.plainParts_last leaves
      · have later : continuesPlain next (d :: rest) = true :=
          continuesPlain_of_append (b :: others) (continuesPlain_of_append run goesOn')
        have there : (cursor.skip (c :: run).length).rest = b :: others ++ (d :: rest ++ follow) := by
          simp [front]
        have inside' : indent ≤ cursor.mark.column + (c :: run).length + (others.length + 1) := by
          simp
          omega
        have end_eq : cursor.skip ((run ++ b :: (others ++ d :: rest)).length + 1) =
            ((cursor.skip (c :: run).length).skip (others.length + 1)).skip (rest.length + 1) := by
          rw [Cursor.skip_skip, Cursor.skip_skip]
          congr 1
          simp
          omega
        rw [end_eq] at leaves ⊢
        rw [here.plainParts_blanks there blank eachBlank visible'.1 inside']
        have notMark (mark : Char) :
            ((cursor.skip (c :: run).length).skip (others.length + 1)).atDocumentMark mark = false := by
          simp [Cursor.atDocumentMark]
        have resumed := ih (by simp at enough; omega) visible' later
          (by rw [Cursor.skip_rest, there]; simp) (Nat.le_succ_of_le inside') (notMark '-')
          (notMark '.') leaves (before ++ blanks ++ c :: run) (b :: others)
          (cursor.skip (c :: run).length).mark
        rw [resumed]
        simp

theorem startsVisibly_of_startsPlain (starts : startsPlain next text = true) :
    StartsVisibly text := by
  cases text with
  | nil => simp [startsPlain] at starts
  | cons c rest =>
      simp only [startsPlain, Bool.and_eq_true, Bool.not_eq_true'] at starts
      refine ⟨c, rest, rfl, starts.1, ?_⟩
      rintro rfl
      simp [TokenReader.isIndicator] at starts

theorem readPlain_text (stands : standsPlain next text = true) (ends : EndsPlain next follow)
    {cursor : Cursor} (front : cursor.rest = text ++ follow) (inside : indent ≤ cursor.mark.column + 1)
    (noStart : cursor.atDocumentMark '-' = false) (noEnd : cursor.atDocumentMark '.' = false)
    (leaves : Leaves indent (cursor.skip text.length) newLine after) :
    readPlain false indent cursor =
      .ok ⟨text, (cursor.skip text.length).mark, newLine, after⟩ := by
  rw [standsPlain, Bool.and_eq_true] at stands
  obtain ⟨c, rest, rfl, visible⟩ := startsVisibly_of_startsPlain stands.1
  have enough : rest.length + 1 < cursor.rest.length + 1 := by
    rw [front, List.length_append, List.length_cons]
    omega
  exact plainParts_read ends enough visible stands.2 front inside noStart noEnd leaves [] []
    cursor.mark

end Parts

end Scalar

end PipelineAdvisor.Yaml
