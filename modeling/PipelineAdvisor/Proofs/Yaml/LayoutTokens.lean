import PipelineAdvisor.Proofs.Yaml.Layout
import PipelineAdvisor.Proofs.Yaml.TokenSteps

/-!
The tokens of a layout. Reading steps through the text of a layout from entry to entry; behind each
part the reader is inside the same collections as in front of it.
-/

namespace PipelineAdvisor.Yaml

open TokenReader
open Scalar (StartsVisibly startsVisibly_of_startsPlain)

namespace TokenReader

variable {reader there : TokenReader} {indent : Int} {outer : List Int} {lexemes : List Lexeme}
  {follow shown : List Char} {column level : Nat}

/-- The reader finds a token in front of a text that stands further right than the collection around
it. If the text is not on the line of a key, a collection may begin there. -/
structure Found (reader there : TokenReader) (level : Nat) (onLine : Bool) (indent : Int)
    (outer : List Int) (lexemes : List Lexeme) (text : List Char) : Prop where
  started : reader.started = true
  ok : reader.findToken = .ok there
  here : At there text
  inside : Inside there there.column indent outer lexemes
  right : indent < there.column
  inner : indent < level
  margin : there.cursor.mark.column = 0 → level = 0
  fresh : onLine = false → there.cursor.mark.column = level ∧ there.keyAllowed = true

/-- A part of a collection at a column is read as these lexemes, whether it opens the collection or
goes on with it. `last` says whether it needs a line behind it. -/
def ReadsPart (start : Lexeme) (level : Nat) (text : List Char) (part : List Lexeme) (last : Bool) :
    Prop :=
  ∀ ⦃reader there : TokenReader⦄ ⦃indent : Int⦄ ⦃outer outer' : List Int⦄ ⦃lexemes opening : List Lexeme⦄
    ⦃follow shown : List Char⦄ ⦃column : Nat⦄, reader.started = true → reader.findToken = .ok there →
    At there (text ++ follow) → there.cursor.mark.column = level → there.keyAllowed = true →
    Inside there level indent outer lexemes → Opens start level indent outer outer' opening →
    Behind level follow shown column → (last = true → StartsVisibly shown) →
    ReadsTo reader level outer' (lexemes ++ opening ++ part) shown column

def ReadsMore (level : Nat) (text : List Char) (more : List Lexeme) (before last : Bool) : Prop :=
  ∀ ⦃indent : Int⦄ ⦃outer : List Int⦄ ⦃follow shown : List Char⦄ ⦃column : Nat⦄, indent < level →
    Behind indent follow shown column → (last = true → StartsVisibly shown) →
    ∃ first firstColumn, Behind level (text ++ follow) first firstColumn ∧
      (before = true → StartsVisibly first) ∧
      ∀ ⦃reader : TokenReader⦄ ⦃lexemes : List Lexeme⦄,
        ReadsTo reader level (indent :: outer) lexemes first firstColumn →
        ReadsTo reader indent outer (lexemes ++ more ++ [.blockEnd]) shown column

theorem Behind.of_le {outside : Int} (behind : Behind outside follow shown column)
    (inside : outside ≤ indent) : Behind indent follow shown column := by
  cases behind with
  | nothing => exact .nothing _
  | line left solid => exact .line (left.imp_left (Int.le_trans · inside)) solid

theorem readsMore_nil (level : Nat) (before : Bool) : ReadsMore level [] [] before before := by
  intro indent outer follow shown column right behind line
  refine ⟨shown, column, behind.of_le (Int.le_of_lt right), line, fun reader lexemes reads => ?_⟩
  obtain ⟨next, advances, here, inside, onLine⟩ := reads
  refine ⟨next, advances, here, ?_, onLine⟩
  simpa using inside.leave right

theorem At.findToken_here {text : List Char} (here : At reader text) (starts : StartsVisibly text)
    (margin : reader.cursor.mark.column = 0 → text.head? ≠ some '\ufeff') :
    ∃ candidate, (∀ key ∈ candidate, key.required = false) ∧
      reader.findToken = .ok { reader with candidate } := by
  obtain ⟨c, rest, rfl, visible⟩ := starts
  have front : c :: rest = Scalar.spaces 0 ++ c :: rest := rfl
  exact here.findToken front visible fun _ atMargin isMark =>
    margin atMargin (congrArg some isMark)

theorem readsMore_cons {start : Lexeme} {text moreText : List Char} {part more : List Lexeme}
    {middle last : Bool} (first : ReadsPart start level text part middle)
    (starts : StartsVisibly text) (margin : level = 0 → text.head? ≠ some '\ufeff')
    (rest : ReadsMore level moreText more middle last) (before : Bool) :
    ReadsMore level ('\n' :: (Scalar.spaces level ++ text) ++ moreText) (part ++ more) before last := by
  intro indent outer follow shown column right behind line
  obtain ⟨next, nextColumn, behindPart, linePart, later⟩ :=
    @rest indent outer _ _ _ right behind line
  refine ⟨text ++ (moreText ++ follow), level, ?_, fun _ => starts.append _,
    fun reader lexemes reads => ?_⟩
  · obtain ⟨c, others, rfl, visible⟩ := starts
    have shape : '\n' :: (Scalar.spaces level ++ c :: others) ++ moreText ++ follow =
        '\n' :: (Scalar.spaces level ++ c :: (others ++ (moreText ++ follow))) := by simp
    rw [shape]
    exact .line (.inl (Int.le_refl _)) visible.1
  · obtain ⟨middle, advances, here, inside, onLine⟩ := reads
    have starting := starts.append (moreText ++ follow)
    obtain ⟨column_eq, allowed⟩ := onLine starting.ne_nil
    have headMargin : middle.cursor.mark.column = 0 →
        (text ++ (moreText ++ follow)).head? ≠ some '\ufeff' := by
      obtain ⟨c, others, rfl, _⟩ := starts
      exact fun atMargin => margin (column_eq ▸ atMargin)
    obtain ⟨candidate, free, found⟩ := here.findToken_here starting headMargin
    have there : At { middle with candidate } (text ++ (moreText ++ follow)) :=
      ⟨here.started, here.outside, free, here.counted, here.rest⟩
    have part := first here.started found there column_eq allowed inside (.again _) behindPart linePart
    simpa using (later part).after advances

theorem exists_found_of_blank {text : List Char} (onLine : Bool) (here : At reader (' ' :: text))
    (starts : StartsVisibly text) (within : Within reader level outer lexemes)
    (right : level < reader.cursor.mark.column)
    (fresh : onLine = false → reader.cursor.mark.column = level + 1 ∧ reader.keyAllowed = true) :
    ∃ there, Found reader there (level + 2) onLine level outer lexemes text := by
  obtain ⟨c, rest, rfl, visible⟩ := starts
  have front : ' ' :: c :: rest = Scalar.spaces 1 ++ c :: rest := rfl
  obtain ⟨candidate, free, found⟩ := here.findToken front visible (by simp)
  have column_eq : (reader.cursor.skip 1).mark.column = reader.cursor.mark.column + 1 :=
    Cursor.skip_column _ _
  obtain ⟨there, eq⟩ : ∃ there : TokenReader, there =
      { reader with cursor := reader.cursor.skip 1, candidate } := ⟨_, rfl⟩
  rw [← eq] at found
  have place : there.cursor.mark.column = reader.cursor.mark.column + 1 := by rw [eq, column_eq]
  have further : (level : Int) < there.column := by
    rw [TokenReader.column, place]
    omega
  have inside : Inside there there.column level outer lexemes := by
    rw [eq] at further ⊢
    exact Within.inside ⟨within.indent_eq, within.outer_eq, within.lexemes_eq⟩ (Int.le_of_lt further)
  refine ⟨there, here.started, found, ?_, inside, further, by omega, by omega, fun collection => ?_⟩
  · rw [eq]
    refine ⟨here.started, here.outside, free, here.counted.skip 1, ?_⟩
    rw [Cursor.skip_rest, here.rest]
    rfl
  · obtain ⟨before, allowed⟩ := fresh collection
    exact ⟨by rw [place, before], by rwa [eq]⟩

theorem exists_found_of_line {text : List Char} (onLine : Bool)
    (here : At reader ('\n' :: (Scalar.spaces (level + 2) ++ text))) (starts : StartsVisibly text)
    (within : Within reader level outer lexemes) :
    ∃ there, Found reader there (level + 2) onLine level outer lexemes text := by
  obtain ⟨c, rest, rfl, visible⟩ := starts
  obtain ⟨candidate, free, found⟩ := here.findToken_line rfl visible (by omega)
  have place : (reader.cursor.skipBreak.skip (level + 2)).mark.column = level + 2 := by
    rw [Cursor.skip_column, Cursor.skipBreak]
    exact Nat.zero_add _
  obtain ⟨there, eq⟩ : ∃ there : TokenReader, there = { reader with
      cursor := reader.cursor.skipBreak.skip (level + 2), keyAllowed := true, candidate } := ⟨_, rfl⟩
  rw [← eq] at found
  have column_eq : there.cursor.mark.column = level + 2 := by rw [eq, place]
  have further : (level : Int) < there.column := by
    rw [TokenReader.column, column_eq]
    omega
  have inside : Inside there there.column level outer lexemes := by
    rw [eq] at further ⊢
    exact Within.inside ⟨within.indent_eq, within.outer_eq, within.lexemes_eq⟩ (Int.le_of_lt further)
  refine ⟨there, here.started, found, ?_, inside, further, by omega, by omega,
    fun _ => ⟨column_eq, by rw [eq]⟩⟩
  rw [eq]
  exact ⟨here.started, here.outside, free, (Cursor.counted_skipBreak _).skip _,
    Scalar.nextLine_rest here.rest⟩

end TokenReader

namespace Layout

/-- A layout at a column is read as its lexemes wherever it is found. -/
def Reads (column : Nat) (layout : Layout) : Prop :=
  ∀ ⦃reader there : TokenReader⦄ ⦃indent : Int⦄ ⦃outer : List Int⦄ ⦃lexemes : List Lexeme⦄
    ⦃follow shown : List Char⦄ ⦃behindColumn : Nat⦄,
    Found reader there column layout.isScalar indent outer lexemes (layout.text column ++ follow) →
    Behind indent follow shown behindColumn → (layout.endsLiteral = true → StartsVisibly shown) →
    ReadsTo reader indent outer (lexemes ++ layout.lexemes) shown behindColumn

variable {level : Nat} {layout : Layout}

theorem reads_plain {text : String} (fits : (plain text).fits level = true) :
    (plain text).Reads level := by
  intro reader there indent outer lexemes follow shown column found behind _
  simp only [Layout.fits, standsAsValue, standsFor, standsAt, Bool.and_eq_true, Bool.or_eq_true,
    bne_iff_ne, ne_eq] at fits
  refine read_plain found.started found.ok found.here found.inside found.right fits.1.1.1
    (fun atMargin => ?_) behind
  exact fits.2.resolve_left (not_not_intro (found.margin atMargin))

theorem reads_literal {lines : List String} (fits : (literal lines).fits level = true) :
    (literal lines).Reads level := by
  intro reader there indent outer lexemes follow shown column found behind line
  simp only [Layout.fits, Bool.and_eq_true, Bool.not_eq_true', List.isEmpty_eq_false_iff] at fits
  have filled : lines.map String.toList ≠ [] := by simpa using fits.1.1
  exact read_literal found.started found.ok found.here found.inside found.inner filled fits.1.2 behind
    (line rfl)

theorem Reads.value {reader : TokenReader} {outer : List Int} {lexemes : List Lexeme}
    {follow shown : List Char} {column : Nat} (reads : layout.Reads (level + 2))
    (starts : StartsVisibly (layout.text (level + 2)))
    (here : At reader (layout.lead (level + 2) ++ (layout.text (level + 2) ++ follow)))
    (within : Within reader level outer lexemes) (right : level < reader.cursor.mark.column)
    (behind : Behind level follow shown column)
    (line : layout.endsLiteral = true → StartsVisibly shown) :
    ReadsTo reader level outer (lexemes ++ layout.lexemes) shown column := by
  have starting := starts.append follow
  cases scalar : layout.isScalar with
  | true =>
      rw [lead, if_pos scalar] at here
      obtain ⟨there, found⟩ := exists_found_of_blank true here starting within right nofun
      exact reads (scalar ▸ found) behind line
  | false =>
      rw [lead, if_neg (by simp [scalar])] at here
      obtain ⟨there, found⟩ := exists_found_of_line layout.isScalar here starting within
      exact reads found behind line

theorem readsPart_entry {key : String} (stands : standsAsKey key = true)
    (margin : standsAt level key = true) (reads : layout.Reads (level + 2))
    (starts : StartsVisibly (layout.text (level + 2))) :
    ReadsPart .blockMappingStart level
      (key.toList ++ ':' :: (layout.lead (level + 2) ++ layout.text (level + 2)))
      (.key :: .scalar key.toList .plain :: .value :: layout.lexemes) layout.endsLiteral := by
  intro reader there indent outer outer' lexemes opening follow shown column started ok here column_eq
    allowed inside opens behind line
  have level_eq : there.column = level := congrArg Int.ofNat column_eq
  simp only [standsAsKey, standsFor, standsAt, Bool.and_eq_true, Bool.or_eq_true, bne_iff_ne, ne_eq,
    decide_eq_true_eq] at stands margin
  have blank : (layout.lead (level + 2) ++ (layout.text (level + 2) ++ follow)).head?.elim true
      isSpaceOrBreak = true := by
    rw [lead]
    split <;> rfl
  have shape : key.toList ++ ':' :: (layout.lead (level + 2) ++ layout.text (level + 2)) ++ follow =
      key.toList ++ ':' :: (layout.lead (level + 2) ++ (layout.text (level + 2) ++ follow)) := by
    simp
  rw [shape] at here
  obtain ⟨next, advances, nextAt, within, nextColumn⟩ := read_key started ok here allowed
    (level_eq ▸ inside) (level_eq ▸ opens) stands.1.1.1 stands.2
    (fun atMargin => margin.resolve_left (not_not_intro (column_eq ▸ atMargin))) blank
  rw [level_eq] at within
  have value := reads.value starts nextAt within (by omega) behind line
  simpa using value.after advances

theorem readsPart_item (reads : layout.Reads (level + 2))
    (starts : StartsVisibly (layout.text (level + 2))) :
    ReadsPart .blockSequenceStart level ('-' :: ' ' :: layout.text (level + 2))
      (.blockEntry :: layout.lexemes) layout.endsLiteral := by
  intro reader there indent outer outer' lexemes opening follow shown column started ok here column_eq
    allowed inside opens behind line
  have level_eq : there.column = level := congrArg Int.ofNat column_eq
  obtain ⟨next, advances, nextAt, within, nextColumn, nextAllowed⟩ :=
    read_hyphen started ok here allowed (level_eq ▸ inside) (level_eq ▸ opens) rfl
  rw [level_eq] at within
  rw [column_eq] at nextColumn
  obtain ⟨found, place⟩ := exists_found_of_blank layout.isScalar nextAt (starts.append follow)
    within (by omega) fun _ => ⟨nextColumn, nextAllowed⟩
  simpa using (reads place behind line).after advances

theorem reads_collection {start : Lexeme} {text more : List Char} {part rest : List Lexeme}
    {first : Bool} (text_eq : layout.text level = text ++ more) (block : layout.isScalar = false)
    (lexemes_eq : layout.lexemes = start :: part ++ rest ++ [.blockEnd])
    (readsFirst : ReadsPart start level text part first)
    (readsRest : ReadsMore level more rest first layout.endsLiteral) : layout.Reads level := by
  intro reader there indent outer lexemes follow shown column found behind line
  obtain ⟨column_eq, allowed⟩ := found.fresh block
  have level_eq : there.column = level := congrArg Int.ofNat column_eq
  obtain ⟨next, nextColumn, behindFirst, lineFirst, later⟩ := readsRest found.inner behind line
  have here := found.here
  rw [text_eq, List.append_assoc] at here
  have opened := readsFirst found.started found.ok here column_eq allowed
    (level_eq ▸ found.inside) (.fresh outer found.inner) behindFirst lineFirst
  simpa [lexemes_eq] using later opened

theorem startsVisibly : {layout : Layout} → layout.fits level = true →
    StartsVisibly (layout.text level)
  | .plain text, fits => by
      simp only [Layout.fits, standsAsValue, standsFor, Bool.and_eq_true] at fits
      exact startsVisibly_of_startsPlain (Bool.and_eq_true_iff.mp fits.1.1.1).1
  | .literal _, _ => ⟨'|', _, rfl, rfl, by decide⟩
  | .mapping _ _ _, fits => by
      simp only [Layout.fits, standsAsKey, standsFor, Bool.and_eq_true] at fits
      have plain := Bool.and_eq_true_iff.mp fits.1.1.1.1.1.1.1
      exact ((startsVisibly_of_startsPlain plain.1).append _).append _
  | .sequence _ _, _ => ⟨'-', _, rfl, rfl, by decide⟩

theorem head_of_standsAt {text : String} (starts : StartsVisibly text.toList)
    (margin : standsAt level text = true) (more : List Char) (atMargin : level = 0) :
    (text.toList ++ more).head? ≠ some '\ufeff' := by
  subst atMargin
  obtain ⟨c, rest, eq, _⟩ := starts
  simp only [standsAt, bne_self_eq_false, Bool.false_or, startsMargin, eq, Bool.not_eq_true',
    Bool.or_eq_false_iff] at margin
  have other := margin.2
  simp only [List.isPrefixOf, Bool.and_true, beq_eq_false_iff_ne] at other
  simpa [eq] using other.symm

mutual

theorem reads : (layout : Layout) → (level : Nat) → layout.fits level = true → layout.Reads level
  | .plain _, _, fits => reads_plain fits
  | .literal _, _, fits => reads_literal fits
  | .mapping key value rest, level, fits => by
      simp only [Layout.fits, Bool.and_eq_true] at fits
      obtain ⟨⟨⟨⟨stands, margin⟩, fitsValue⟩, fitsRest⟩, _⟩ := fits
      exact reads_collection rfl rfl rfl
        (readsPart_entry stands margin (reads value _ fitsValue) (startsVisibly fitsValue))
        (readsMore_entries rest level fitsRest _)
  | .sequence first rest, level, fits => by
      simp only [Layout.fits, Bool.and_eq_true] at fits
      exact reads_collection rfl rfl rfl
        (readsPart_item (reads first _ fits.1) (startsVisibly fits.1))
        (readsMore_items rest level fits.2 _)

theorem readsMore_entries : (rest : List (String × Layout)) → (level : Nat) →
    entriesFit level rest = true → (before : Bool) →
    ReadsMore level (entriesText level rest) (entryLexemes rest) before (entriesEndLiteral before rest)
  | [], level, _, before => readsMore_nil level before
  | (key, value) :: rest, level, fits, before => by
      simp only [entriesFit, Bool.and_eq_true] at fits
      obtain ⟨⟨⟨stands, margin⟩, fitsValue⟩, fitsRest⟩ := fits
      have starts : StartsVisibly key.toList := by
        simp only [standsAsKey, standsFor, Bool.and_eq_true] at stands
        exact startsVisibly_of_startsPlain (Bool.and_eq_true_iff.mp stands.1.1.1).1
      exact readsMore_cons
        (readsPart_entry stands margin (reads value _ fitsValue) (startsVisibly fitsValue))
        (starts.append _) (head_of_standsAt starts margin _) (readsMore_entries rest level fitsRest _)
        before

theorem readsMore_items : (rest : List Layout) → (level : Nat) → itemsFit level rest = true →
    (before : Bool) →
    ReadsMore level (itemsText level rest) (itemLexemes rest) before (itemsEndLiteral before rest)
  | [], level, _, before => readsMore_nil level before
  | item :: rest, level, fits, before => by
      simp only [itemsFit, Bool.and_eq_true] at fits
      exact readsMore_cons (readsPart_item (reads item _ fits.1) (startsVisibly fits.1))
        ⟨'-', _, rfl, rfl, by decide⟩ (fun _ => by simp) (readsMore_items rest level fits.2 _) before

end

end Layout

/-! The end of the stream. -/

/-- What may stand behind a document: nothing, or a comment on a line of its own. -/
inductive Closes : List Char → Prop where
  | nothing : Closes []
  | comment (column : Nat) {text : List Char} (oneLine : ∀ c ∈ text, isBreak c = false) :
      Closes ('\n' :: (Scalar.spaces column ++ '#' :: text))

namespace TokenReader

variable {reader : TokenReader} {indent level : Int} {outer : List Int} {lexemes : List Lexeme}

theorem exists_behind_of_closes {tail : List Char} (closes : Closes tail) : ∃ shown column,
    Behind (-1) tail shown column ∧
      (shown = [] ∨ ∃ rest, shown = '#' :: rest ∧ ∀ c ∈ rest, isBreak c = false) := by
  cases closes with
  | nothing => exact ⟨[], 0, .nothing 0, .inl rfl⟩
  | comment column oneLine => exact ⟨_, column, .line (.inr rfl) rfl, .inr ⟨_, rfl, oneLine⟩⟩

theorem Inside.close {further : Int} (le : level ≤ further) : ∀ {outers : List Int}
    {reader : TokenReader}, reader.outerIndents = outers → Inside reader level indent outer lexemes →
    Inside (closeBlocks.close further reader outers) level indent outer lexemes
  | [], _, _, inside => inside
  | next :: others, reader, outers, inside => by
      rw [closeBlocks.close]
      split
      next deep =>
        refine Inside.close le rfl ?_
        obtain ⟨stays, deeper, stack, right, rfl⟩ := inside
        cases deeper with
        | nil =>
            obtain ⟨rfl, _⟩ := List.cons_eq_cons.mp stack
            exact absurd deep (Int.not_lt.mpr (Int.le_trans stays le))
        | cons column deeper =>
            refine ⟨stays, deeper, ?_, fun other known => right other (List.mem_cons_of_mem _ known), ?_⟩
            · exact outers.symm.trans (List.cons_eq_cons.mp stack).2
            · simp [push, List.replicate_succ]
      next => exact inside

theorem At.close {text : List Char} (further : Int) : ∀ (outers : List Int) {reader : TokenReader},
    At reader text → At (closeBlocks.close further reader outers) text
  | [], _, here => here
  | _ :: others, reader, here => by
      rw [closeBlocks.close]
      split
      · exact At.close further others ⟨here.started, here.outside, here.free, here.counted, here.rest⟩
      · exact here

theorem readStreamEnd_of_inside (here : At reader [])
    (inside : Inside reader (-1) (-1) [] lexemes) :
    ∃ last, reader.readStreamEnd = .ok last ∧ last.candidate = none ∧ last.outerCandidates = [] ∧
      last.queue.map (·.lexeme) = lexemes ++ [.streamEnd] := by
  obtain ⟨mark, moved⟩ : ∃ mark, mark =
      if reader.cursor.mark.column == 0 then reader.cursor.mark
      else { reader.cursor.mark with line := reader.cursor.mark.line + 1, column := 0 } := ⟨_, rfl⟩
  have insideMoved : Inside { reader with cursor := { reader.cursor with mark } } (-1) (-1) []
      lexemes := inside
  obtain ⟨queue, closed, same⟩ := insideMoved.closeBlocks here.outside
  obtain ⟨left, leaving⟩ : ∃ left : TokenReader, left = { reader with
    cursor := { reader.cursor with mark }, indent := -1, outerIndents := [], queue } := ⟨_, rfl⟩
  have free : ∀ key ∈ left.candidate, key.required = false := by
    rw [leaving]
    exact here.free
  have read : reader.readStreamEnd = .ok
      ({ left with candidate := none, keyAllowed := false }.push .streamEnd mark) := by
    rw [readStreamEnd]
    dsimp only
    rw [← moved, closed, ← leaving, dropCandidate_of_free free]
    rfl
  refine ⟨_, read, rfl, ?_, ?_⟩
  · rw [leaving]
    exact here.outside
  · simp [leaving, push, same]

theorem finishes_of_closes {shown : List Char} (here : At reader shown)
    (closing : shown = [] ∨ ∃ rest, shown = '#' :: rest ∧ ∀ c ∈ rest, isBreak c = false)
    (inside : Inside reader (-1) (-1) [] lexemes) :
    ∃ tokens, Finishes 1 reader tokens ∧ tokens.map (·.lexeme) = lexemes ++ [.streamEnd] := by
  obtain ⟨skipped, ended⟩ :=
    @skipToToken_end reader reader.cursor.rest.length _ here.rest closing
  obtain ⟨candidate, free, found⟩ :=
    @dropStale_of_free { reader with cursor := reader.cursor.skipComment } here.outside here.free
  obtain ⟨there, eq⟩ : ∃ there : TokenReader,
      there = { reader with cursor := reader.cursor.skipComment, candidate } := ⟨_, rfl⟩
  have ok : reader.findToken = .ok there := by
    rw [findToken, skipped, eq]
    exact found
  have thereAt : At there [] := by
    rw [eq]
    exact ⟨here.started, here.outside, free, here.counted.skipComment, ended⟩
  have thereInside : Inside there (-1) (-1) [] lexemes := by
    rw [eq]
    exact inside
  have left : (-1 : Int) ≤ there.column := Int.le_trans (by decide) (Int.natCast_nonneg _)
  have closed : there.closeBlocks there.column =
      closeBlocks.close there.column there there.outerIndents := by
    rw [closeBlocks, inFlow_of_outside thereAt.outside]
    rfl
  obtain ⟨last, read, free, outside, lexemes_eq⟩ :=
    readStreamEnd_of_inside (thereAt.close _ there.outerIndents) (thereInside.close left rfl)
  have token : reader.readToken = .ok last := by
    rw [readToken_found here.started ok, readHere, closed, Cursor.peek?,
      (thereAt.close there.column there.outerIndents).rest]
    exact read
  exact ⟨last.queue, .step (fun _ => here.started) token (Nat.zero_le _) (.done free outside),
    lexemes_eq⟩

end TokenReader

namespace Layout

theorem head_text {layout : Layout} (fits : layout.fits 0 = true) :
    (layout.text 0).head? ≠ some '\ufeff' := by
  have starts := startsVisibly fits
  cases layout with
  | plain word =>
      simp only [Layout.fits, Bool.and_eq_true] at fits
      have head := head_of_standsAt starts fits.2 [] rfl
      rwa [List.append_nil] at head
  | literal lines => simp [text]
  | mapping key value rest =>
      simp only [Layout.fits, standsAsKey, standsFor, Bool.and_eq_true] at fits
      have keyStarts :=
        startsVisibly_of_startsPlain (Bool.and_eq_true_iff.mp fits.1.1.1.1.1.1.1).1
      rw [text, List.append_assoc]
      exact head_of_standsAt keyStarts fits.1.1.1.2 _ rfl
  | sequence first rest => simp [text]

mutual

theorem streamEnd_not_mem : (layout : Layout) → .streamEnd ∉ layout.lexemes
  | .plain _ => by simp [lexemes]
  | .literal _ => by simp [lexemes]
  | .mapping _ value rest => by simp [lexemes, streamEnd_not_mem value, streamEnd_not_mem_entries rest]
  | .sequence first rest => by simp [lexemes, streamEnd_not_mem first, streamEnd_not_mem_items rest]

theorem streamEnd_not_mem_entries : (rest : List (String × Layout)) → .streamEnd ∉ entryLexemes rest
  | [] => List.not_mem_nil
  | (_, value) :: rest => by
      simp [entryLexemes, streamEnd_not_mem value, streamEnd_not_mem_entries rest]

theorem streamEnd_not_mem_items : (rest : List Layout) → .streamEnd ∉ itemLexemes rest
  | [] => List.not_mem_nil
  | item :: rest => by simp [itemLexemes, streamEnd_not_mem item, streamEnd_not_mem_items rest]

end

mutual

theorem length_lexemes_le : (layout : Layout) → (level : Nat) →
    layout.lexemes.length ≤ 4 * (layout.text level).length + 1
  | .plain _, _ => by simp [lexemes]
  | .literal _, _ => by simp [lexemes]
  | .mapping _ value rest, level => by
      have inValue := length_lexemes_le value (level + 2)
      have inRest := length_entryLexemes_le rest level
      have lead : 0 < (value.lead (level + 2)).length := by
        rw [lead]
        split <;> exact Nat.succ_pos _
      simp only [lexemes, text, List.length_append, List.length_cons, List.length_nil]
      omega
  | .sequence first rest, level => by
      have inFirst := length_lexemes_le first (level + 2)
      have inRest := length_itemLexemes_le rest level
      simp only [lexemes, text, List.length_append, List.length_cons, List.length_nil]
      omega

theorem length_entryLexemes_le : (rest : List (String × Layout)) → (level : Nat) →
    (entryLexemes rest).length ≤ 4 * (entriesText level rest).length
  | [], _ => Nat.le_refl _
  | (_, value) :: rest, level => by
      have inValue := length_lexemes_le value (level + 2)
      have inRest := length_entryLexemes_le rest level
      simp only [entryLexemes, entriesText, List.length_append, List.length_cons]
      omega

theorem length_itemLexemes_le : (rest : List Layout) → (level : Nat) →
    (itemLexemes rest).length ≤ 4 * (itemsText level rest).length
  | [], _ => Nat.le_refl _
  | item :: rest, level => by
      have inItem := length_lexemes_le item (level + 2)
      have inRest := length_itemLexemes_le rest level
      simp only [itemLexemes, itemsText, List.length_append, List.length_cons]
      omega

end

theorem tokens_text {layout : Layout} (fits : layout.fits 0 = true)
    (ends : layout.endsLiteral = false) {tail : List Char} (closes : Closes tail) :
    ∃ list, tokens (layout.text 0 ++ tail) = (list, none) ∧
      list.map (·.lexeme) = .streamStart :: layout.lexemes ++ [.streamEnd] := by
  obtain ⟨shown, column, behind, closing⟩ := exists_behind_of_closes closes
  have start : At (opened (layout.text 0 ++ tail)) (layout.text 0 ++ tail) :=
    ⟨rfl, rfl, by simp [opened], Nat.le_refl _, rfl⟩
  have margin : (opened (layout.text 0 ++ tail)).cursor.mark.column = 0 →
      (layout.text 0 ++ tail).head? ≠ some '\ufeff' := fun _ => by
    obtain ⟨c, others, text_eq, _⟩ := startsVisibly fits
    have head := head_text fits
    rwa [text_eq] at head ⊢
  obtain ⟨candidate, free, found⟩ :=
    start.findToken_here ((startsVisibly fits).append tail) margin
  have left : (-1 : Int) < (0 : Nat) := by decide
  have place : Found (opened (layout.text 0 ++ tail))
      { opened (layout.text 0 ++ tail) with candidate } 0 layout.isScalar (-1) [] [.streamStart]
      (layout.text 0 ++ tail) :=
    ⟨rfl, found, ⟨rfl, rfl, free, Nat.le_refl _, rfl⟩,
      Within.inside ⟨rfl, rfl, rfl⟩ (Int.le_of_lt left), left, left, fun _ => rfl,
      fun _ => ⟨rfl, rfl⟩⟩
  obtain ⟨next, advances, here, inside, _⟩ :=
    reads layout 0 fits place behind (by simp [ends])
  obtain ⟨list, last, lexemes_eq⟩ := finishes_of_closes here closing inside
  obtain ⟨steps, enough, finishes⟩ := advances.finishes last (Nat.succ_le_succ (Nat.zero_le _))
  obtain ⟨before, behind, rfl, before_eq, behind_eq⟩ := List.map_eq_append_iff.mp lexemes_eq
  obtain ⟨token, rfl, last_eq⟩ := List.map_eq_singleton_iff.mp behind_eq
  refine ⟨before ++ [token], tokens_of_finishes finishes last_eq ?_ enough ?_, lexemes_eq⟩
  · intro token known isEnd
    have among : Lexeme.streamEnd ∈ before.map (·.lexeme) :=
      List.mem_map.mpr ⟨token, known, isEnd⟩
    rw [before_eq] at among
    simp [streamEnd_not_mem layout] at among
  · have few := length_lexemes_le layout 0
    have count := congrArg List.length before_eq
    simp only [List.length_map, List.length_append, List.length_cons, List.length_nil] at count ⊢
    omega

end Layout

end PipelineAdvisor.Yaml
