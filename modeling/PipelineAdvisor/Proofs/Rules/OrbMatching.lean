import PipelineAdvisor.Proofs.Pipeline.StepPieces
import PipelineAdvisor.Rules.OrbReuse

/-!
Which commands the orb patterns recognise. They look into the written form of a job, in which a
control character is an escape whose letter joins the next word; so a pattern is found in a command
just if one of its stretches holds it.
-/

namespace PipelineAdvisor.OrbReuse

open Text (SplitsAt)

section Stopping

/-- A test of the front of a text that looks at nothing from a mark on. -/
def StopsAt (marks : Char → Prop) (test : List Char → Bool) : Prop :=
  ∀ mark, marks mark → ∀ front back, test (front ++ mark :: back) = test front

def Leaves (marks : Char → Prop) (next : List Char → Option (List Char)) : Prop :=
  ∀ mark, marks mark → ∀ front back,
    next (front ++ mark :: back) = (next front).map (· ++ mark :: back)

variable {marks : Char → Prop} {next : List Char → Option (List Char)} {test : List Char → Bool}

theorem Leaves.bind {other : List Char → Option (List Char)} (leaves : Leaves marks next)
    (otherLeaves : Leaves marks other) : Leaves marks fun text => (next text).bind other := by
  intro mark known front back
  simp only [leaves mark known front back]
  cases next front with
  | none => rfl
  | some rest => exact otherLeaves mark known rest back

theorem Leaves.elim (leaves : Leaves marks next) (stops : StopsAt marks test) :
    StopsAt marks fun text => (next text).elim false test := by
  intro mark known front back
  simp only [leaves mark known front back]
  cases next front with
  | none => rfl
  | some rest => exact stops mark known rest back

theorem Leaves.head {wanted : Char → Bool} (leaves : Leaves marks next)
    (unwanted : ∀ mark, marks mark → wanted mark = false) :
    StopsAt marks fun text => ((next text).bind List.head?).elim false wanted := by
  intro mark known front back
  simp only [leaves mark known front back]
  cases next front with
  | none => rfl
  | some rest =>
      cases rest with
      | nil => exact unwanted mark known
      | cons first others => rfl

theorem StopsAt.any {choices : List String} {tests : String → List Char → Bool}
    (stops : ∀ choice ∈ choices, StopsAt marks (tests choice)) :
    StopsAt marks fun text => choices.any fun choice => tests choice text := by
  intro mark known front back
  induction choices with
  | nil => rfl
  | cons choice rest ih =>
      have restSame := ih fun other inRest => stops other (List.mem_cons_of_mem choice inRest)
      simp only [List.any_cons, stops choice List.mem_cons_self mark known front back, restSame]

theorem after?_leaves {word : List Char} (clean : ∀ mark, marks mark → mark ∉ word) :
    Leaves marks (after? word) := by
  intro mark known front back
  rw [after?, after?, Text.isPrefixOf_append_mark (clean mark known)]
  split
  next atFront =>
    have fits := (List.isPrefixOf_iff_prefix.mp atFront).length_le
    rw [List.drop_append_of_le_length fits]
    rfl
  next => rfl

theorem afterBlanks?_leaves (special : ∀ mark, marks mark → Text.isBlank mark = false) :
    Leaves marks afterBlanks? := by
  intro mark known front back
  have stop := special mark known
  cases front with
  | nil => simp [afterBlanks?, stop]
  | cons first rest =>
      have passed : ∀ text : List Char, (text ++ mark :: back).dropWhile Text.isBlank =
          text.dropWhile Text.isBlank ++ mark :: back := by
        intro text
        induction text with
        | nil => simp [stop]
        | cons c others ih =>
            cases blank : Text.isBlank c with
            | true => simpa [blank] using ih
            | false => simp [blank]
      rw [afterBlanks?, afterBlanks?, passed, List.cons_append, List.head?_cons, List.head?_cons]
      split <;> rfl

theorem endsWord_stopsAt (special : ∀ mark, marks mark → Text.isWord mark = false) :
    StopsAt marks endsWord := by
  intro mark known front back
  cases front with
  | nil => simp [endsWord, special mark known]
  | cons first rest => rfl

theorem atWordStart_splitsAt (special : ∀ mark, marks mark → Text.isWord mark = false)
    (stops : StopsAt marks test) (empty : test [] = false) :
    SplitsAt marks (atWordStart test false) where
  empty := rfl
  split := by
    intro mark known front back
    -- The character before the text varies along the way, so the induction is over both flags.
    have parted : ∀ inWord, atWordStart test inWord (front ++ mark :: back) =
        (atWordStart test inWord front || atWordStart test false back) := by
      induction front with
      | nil =>
          intro inWord
          have missed := stops mark known [] back
          rw [List.nil_append, empty] at missed
          simp [atWordStart, missed, special mark known]
      | cons first rest ih =>
          intro inWord
          have here := stops mark known (first :: rest) back
          rw [List.cons_append] at here
          rw [List.cons_append, atWordStart, here, ih, atWordStart, Bool.or_assoc]
    exact parted false

end Stopping

theorem isMark_ordinary : ∀ mark, Json.IsMark mark →
    mark.toLower = mark ∧ Text.isWord mark = false ∧ Text.isBlank mark = false ∧
      isCommandChar mark = false := by
  have all : Json.marks.all (fun mark => mark.toLower == mark && !Text.isWord mark &&
      !Text.isBlank mark && !isCommandChar mark) = true := by
    decide +kernel
  intro mark known
  simpa [and_assoc] using List.all_eq_true.mp all mark known

theorem after?_afterBlanks?_leaves {word : List Char} (unmarked : Json.isUnmarked word = true) :
    Leaves Json.IsMark fun text => (after? word text).bind afterBlanks? :=
  (after?_leaves (Json.not_mem_of_isUnmarked unmarked)).bind
    (afterBlanks?_leaves fun mark known => (isMark_ordinary mark known).2.2.1)

theorem after?_endsWord_stopsAt {word : List Char} (unmarked : Json.isUnmarked word = true) :
    StopsAt Json.IsMark fun text => (after? word text).elim false endsWord :=
  (after?_leaves (Json.not_mem_of_isUnmarked unmarked)).elim
    (endsWord_stopsAt fun mark known => (isMark_ordinary mark known).2.1)

theorem callsAws_splitsAt : SplitsAt Json.IsMark callsAws := by
  apply atWordStart_splitsAt (fun mark known => (isMark_ordinary mark known).2.1)
  · exact (after?_afterBlanks?_leaves (by decide)).head fun mark known =>
      (isMark_ordinary mark known).2.2.2
  · rfl

theorem namesSlack_splitsAt : SplitsAt Json.IsMark namesSlack := by
  apply SplitsAt.or
  · exact Text.occursIn_splitsAt (by decide) (Json.not_mem_of_isUnmarked (by decide))
  · exact atWordStart_splitsAt (fun mark known => (isMark_ordinary mark known).2.1)
      (after?_endsWord_stopsAt (by decide)) rfl

theorem installsPackages_splitsAt : SplitsAt Json.IsMark installsPackages := by
  apply atWordStart_splitsAt (fun mark known => (isMark_ordinary mark known).2.1)
  · apply StopsAt.any
    intro manager listed
    have unmarked : ∀ manager ∈ ["npm", "yarn", "pnpm"],
        Json.isUnmarked manager.toList = true := by
      decide
    apply (after?_afterBlanks?_leaves (unmarked manager listed)).elim
    apply StopsAt.any
    intro command listed
    have unmarked : ∀ command ∈ ["install", "ci"], Json.isUnmarked command.toList = true := by
      decide
    exact after?_endsWord_stopsAt (unmarked command listed)
  · rfl

/-- No pattern is found across the punctuation of the written form. -/
theorem Pattern.splitsAt {pattern : Pattern} (known : pattern ∈ patterns) :
    SplitsAt Json.IsMark pattern.matchesText := by
  simp only [patterns, List.mem_cons, List.not_mem_nil, or_false] at known
  rcases known with rfl | rfl | rfl
  · exact callsAws_splitsAt
  · exact namesSlack_splitsAt
  · exact installsPackages_splitsAt

theorem Pattern.matches_stepsText {pattern : Pattern} (known : pattern ∈ patterns) (job : Job) :
    pattern.matchesText (Text.lowerAscii job.stepsText) = true ↔
      ∃ step ∈ job.steps, ∃ piece ∈ step.pieces,
        pattern.matchesText (Text.lowerAscii piece) = true := by
  have splits := (Pattern.splitsAt known).lowered fun mark known => (isMark_ordinary mark known).1
  have parted := Job.stepsText_test splits job
  simp only [parted, List.any_eq_true]

theorem suggestion_injective {job : Job} {pattern other : Pattern} (known : pattern ∈ patterns)
    (otherKnown : other ∈ patterns) (same : suggestion job pattern = suggestion job other) :
    pattern = other := by
  have slug : pattern.slug ++ "-" ++ job.name = other.slug ++ "-" ++ job.name := by
    have ids := congrArg Finding.id same
    simp only [suggestion, Finding.start, Finding.idOf] at ids
    simpa [String.append_assoc] using ids
  have slugs : pattern.slug = other.slug := by
    simpa using slug
  simp only [patterns, List.mem_cons, List.not_mem_nil, or_false] at known otherKnown
  rcases known with rfl | rfl | rfl <;> rcases otherKnown with rfl | rfl | rfl
  all_goals first
    | rfl
    | exact absurd slugs (by decide)

theorem suggestion_mem_inspectJob {config : Config} {job : Job} {pattern : Pattern}
    (known : pattern ∈ patterns)
    (undeclared : config.declaresOrb (orbNamespace pattern.reference) = false) :
    suggestion job pattern ∈ inspectJob config job ↔
      pattern.matchesText (Text.lowerAscii job.stepsText) = true := by
  simp only [inspectJob, List.mem_map, List.mem_filter, Bool.and_eq_true, Bool.not_eq_true']
  constructor
  · rintro ⟨other, ⟨otherKnown, found, _⟩, same⟩
    rwa [← suggestion_injective otherKnown known same]
  · intro found
    exact ⟨pattern, ⟨known, found, undeclared⟩, rfl⟩

theorem Pattern.matches_nil {pattern : Pattern} (known : pattern ∈ patterns) :
    pattern.matchesText [] = false :=
  (Pattern.splitsAt known).empty

theorem suggestion_of_stretch {config : Config} {job : Job} {pattern : Pattern} {step : Step}
    {name : Option String} {command : String} {stretch : List Char} (listed : job ∈ config.jobs)
    (known : pattern ∈ patterns)
    (undeclared : config.declaresOrb (orbNamespace pattern.reference) = false)
    (inSteps : step ∈ job.steps) (imaged : step.node.image?.isSome = true)
    (runs : step.kind = .run name command) (inCommand : stretch ∈ Json.stretches command.toList)
    (found : pattern.matchesText (Text.lowerAscii stretch) = true) :
    suggestion job pattern ∈ inspect config := by
  have filled : command ≠ "" := by
    rintro rfl
    obtain rfl : stretch = [] := List.mem_singleton.mp inCommand
    have missed : pattern.matchesText (Text.lowerAscii []) = false := Pattern.matches_nil known
    rw [missed] at found
    exact Bool.noConfusion found
  have inPieces := Step.stretches_command_subset_pieces runs filled imaged inCommand
  have inJob : suggestion job pattern ∈ inspectJob config job := by
    rw [suggestion_mem_inspectJob known undeclared, Pattern.matches_stepsText known]
    exact ⟨step, inSteps, stretch, inPieces, found⟩
  exact List.mem_flatMap.mpr ⟨job, listed, inJob⟩

/-- An orb that is not declared is suggested for a job just if a piece of one of its steps holds the
pattern, so for every command that holds it within one stretch. -/
theorem suggestion_iff_piece_matches {config : Config} {job : Job} {pattern : Pattern}
    (listed : job ∈ config.jobs) (known : pattern ∈ patterns)
    (undeclared : config.declaresOrb (orbNamespace pattern.reference) = false) :
    (suggestion job pattern ∈ inspectJob config job ↔
        ∃ step ∈ job.steps, ∃ piece ∈ step.pieces,
          pattern.matchesText (Text.lowerAscii piece) = true) ∧
      ∀ step ∈ job.steps, step.node.image?.isSome = true →
        ∀ name command, step.kind = .run name command →
          (∃ stretch ∈ Json.stretches command.toList,
            pattern.matchesText (Text.lowerAscii stretch) = true) →
          suggestion job pattern ∈ inspect config := by
  refine ⟨?_, ?_⟩
  · rw [suggestion_mem_inspectJob known undeclared, Pattern.matches_stepsText known]
  · rintro step inSteps imaged name command runs ⟨stretch, inCommand, found⟩
    exact suggestion_of_stretch listed known undeclared inSteps imaged runs inCommand found

def buildJob (command : String) : Job where
  name := "build"
  steps := [⟨.mapping [(.string "run", .string command)]⟩]

def nodePattern : Pattern :=
  ⟨"node", installsPackages, "circleci/node@5.2", "Node.js"⟩

theorem inspect_suggests_for_single_line :
    suggestion (buildJob "cd app && npm ci") nodePattern ∈
      inspect ⟨[buildJob "cd app && npm ci"], [], []⟩ := by
  have known : nodePattern ∈ patterns :=
    List.mem_cons_of_mem _ (List.mem_cons_of_mem _ List.mem_cons_self)
  have listed : buildJob "cd app && npm ci" ∈
      (Config.mk [buildJob "cd app && npm ci"] [] []).jobs := List.mem_singleton.mpr rfl
  exact (suggestion_iff_piece_matches listed known rfl).2 _ (List.mem_singleton.mpr rfl) rfl none
    "cd app && npm ci" rfl ⟨"cd app && npm ci".toList, by decide +kernel, by decide +kernel⟩

theorem inspect_misses_second_line :
    nodePattern ∈ patterns ∧
      (Config.mk [buildJob "cd app\nnpm ci\n"] [] []).declaresOrb
          (orbNamespace nodePattern.reference) = false ∧
      (∃ step ∈ (buildJob "cd app\nnpm ci\n").steps, step.kind = .run none "cd app\nnpm ci\n" ∧
        step.node.image?.isSome = true) ∧
      nodePattern.matchesText (Text.lowerAscii "cd app\nnpm ci\n".toList) = true ∧
      inspect ⟨[buildJob "cd app\nnpm ci\n"], [], []⟩ = [] := by
  refine ⟨?_, rfl, ⟨_, List.mem_singleton.mpr rfl, rfl, rfl⟩, by decide +kernel, by decide +kernel⟩
  exact List.mem_cons_of_mem _ (List.mem_cons_of_mem _ List.mem_cons_self)

end PipelineAdvisor.OrbReuse
