import PipelineAdvisor.Proofs.Rules.Outline
import PipelineAdvisor.Proofs.Yaml.Scalars

/-!
Words that the rules look for in the text of a job. None of them holds punctuation or a control
character, so escapes and the text around a command do not break them up: whatever stands in a command
stands in the text of every job that runs it.
-/

namespace PipelineAdvisor

open Text (SplitsAt lowerAscii occursIn)

namespace Json

variable {test : List Char → Bool}

theorem any_cutAtControls (splits : SplitsAt (fun c => c.toNat < 0x20) test)
    (kept : ∀ letters text, test text = true → test (letters ++ text) = true)
    (front text : List Char) (found : test (front ++ text) = true) :
    test (front ++ (cutAtControls text).1) = true ∨ (cutAtControls text).2.any test = true := by
  induction text generalizing front with
  | nil => exact Or.inl found
  | cons c rest ih =>
      by_cases control : c.toNat < 0x20
      · rw [splits.split c control, Bool.or_eq_true] at found
        rw [cutAtControls_control control, List.append_nil, List.any_cons, Bool.or_eq_true]
        rcases found with before | behind
        · exact Or.inl before
        · rcases ih [] behind with first | later
          · exact Or.inr (Or.inl (kept _ _ first))
          · exact Or.inr (Or.inr later)
      · have joined : test ((front ++ [c]) ++ rest) = true := by
          rwa [List.append_assoc, List.singleton_append]
        have inside := ih (front ++ [c]) joined
        rw [List.append_assoc, List.singleton_append] at inside
        rwa [cutAtControls_visible control]

end Json

def searchedWords : List String :=
  DependencyCache.installCommands.map (·.1) ++ LayerCaching.buildCommands ++
    Parallelism.testKeywords

theorem searchedWords_plain : ∀ word ∈ searchedWords,
    isKeyword word.toList = true ∧ ∀ c ∈ word.toList, ¬c.toNat < 0x20 := by
  have all : searchedWords.all (fun word =>
      isKeyword word.toList && word.toList.all fun c => 0x20 ≤ c.toNat) = true := by
    decide +kernel
  simpa using all

/-- Escapes leave a word whole that stands in a text. -/
theorem exists_stretch_of_infix {word : String} (known : word ∈ searchedWords) {text : List Char}
    (inside : word.toList <:+: lowerAscii text) :
    ∃ stretch ∈ Json.stretches text, occursIn word.toList (lowerAscii stretch) = true := by
  obtain ⟨keyword, visible⟩ := searchedWords_plain word known
  have uncut : SplitsAt (fun c => c.toNat < 0x20) (occursIn word.toList) :=
    Text.occursIn_splitsAt (isKeyword_filled keyword) fun c control inWord => visible c inWord control
  have unchanged : ∀ c : Char, c.toNat < 0x20 → c.toLower = c := by
    intro c control
    have all := @HardcodedSecret.all_control (fun c => c.toLower == c) (by decide +kernel) c control
    exact beq_iff_eq.mp all
  have kept : ∀ letters text, occursIn word.toList (lowerAscii text) = true →
      occursIn word.toList (lowerAscii (letters ++ text)) = true := by
    intro letters text occurs
    rw [Text.occursIn_iff_infix] at occurs ⊢
    rw [lowerAscii, List.map_append]
    exact occurs.trans (List.suffix_append _ _).isInfix
  rcases Json.any_cutAtControls (uncut.lowered unchanged) kept [] text
    (Text.occursIn_iff_infix.mpr inside) with first | later
  · exact ⟨_, List.mem_cons_self, first⟩
  · obtain ⟨stretch, inOthers, occurs⟩ := List.any_eq_true.mp later
    exact ⟨stretch, List.mem_cons_of_mem _ inOthers, occurs⟩

theorem Job.occursIn_of_command {job : Job} {step : Step} {name : Option String}
    {command word : String} (inJob : step ∈ job.steps) (runs : step.kind = .run name command)
    (plain : step.node.hasPlainKeys = true) (known : word ∈ searchedWords)
    (inside : word.toList <:+: lowerAscii command.toList) :
    occursIn word.toList (lowerAscii job.stepsText) = true := by
  obtain ⟨keyword, _⟩ := searchedWords_plain word known
  have filled : command ≠ "" := by
    rintro rfl
    exact isKeyword_filled keyword (List.infix_nil.mp inside)
  obtain ⟨image, imaged, _⟩ := Yaml.Node.image?_of_plainKeys plain
  obtain ⟨stretch, inCommand, occurs⟩ := exists_stretch_of_infix known inside
  have inStep := Step.stretches_command_subset_pieces runs filled (Option.isSome_of_eq_some imaged)
    inCommand
  have splits := (isKeyword_splitsAt keyword).lowered fun mark marked =>
    (OrbReuse.isMark_ordinary mark marked).1
  have searched := Job.stepsText_test splits job
  simp only [searched, List.any_eq_true]
  exact ⟨step, inJob, stretch, inStep, occurs⟩

/-- Whatever else a job holds, the install commands, build commands and words for tests in the commands
that it runs are found. -/
theorem rules_see_commands {job : Job} {step : Step} {name : Option String} {command : String}
    (inJob : step ∈ job.steps) (runs : step.kind = .run name command)
    (plain : step.node.hasPlainKeys = true) :
    ((∃ entry ∈ DependencyCache.installCommands,
        entry.1.toList <:+: lowerAscii command.toList) →
      (DependencyCache.detectInstall? job.stepsText).isSome = true) ∧
    ((∃ build ∈ LayerCaching.buildCommands, build.toList <:+: lowerAscii command.toList) →
      LayerCaching.buildsImage job = true) ∧
    ((∃ keyword ∈ Parallelism.testKeywords, keyword.toList <:+: lowerAscii command.toList) →
      Parallelism.looksLikeTests job = true) := by
  have found : ∀ word ∈ searchedWords, word.toList <:+: lowerAscii command.toList →
      occursIn word.toList (lowerAscii job.stepsText) = true :=
    fun _ known inside => Job.occursIn_of_command inJob runs plain known inside
  refine ⟨?_, ?_, ?_⟩
  · rintro ⟨entry, listed, inside⟩
    have known : entry.1 ∈ searchedWords := by
      simp only [searchedWords, List.mem_append]
      exact Or.inl (Or.inl (List.mem_map_of_mem listed))
    rw [DependencyCache.detectInstall?, List.find?_isSome]
    exact ⟨entry, listed, found entry.1 known inside⟩
  · rintro ⟨build, listed, inside⟩
    have known : build ∈ searchedWords := by
      simp only [searchedWords, List.mem_append]
      exact Or.inl (Or.inr listed)
    rw [LayerCaching.buildsImage, List.any_eq_true]
    exact ⟨build, listed, found build known inside⟩
  · rintro ⟨keyword, listed, inside⟩
    have known : keyword ∈ searchedWords := by
      simp only [searchedWords, List.mem_append]
      exact Or.inr listed
    rw [Parallelism.looksLikeTests, List.any_eq_true]
    exact ⟨keyword, listed, by rw [found keyword known inside, Bool.or_true]⟩

def script : String := "cd \"app\"\n\tNPM CI\ndocker build .\nnpx Jest\n"

def scriptStep : Step where
  node := .mapping [(.string "run", .mapping [(.string "name", .string "all"),
    (.string "command", .string script),
    (.string "environment", .mapping [(.number (.integer 1), .bool true)])])]

def scriptJob : Job where
  name := "release"
  steps := [⟨.string "checkout"⟩, scriptStep]

theorem rules_see_commands_script :
    scriptStep ∈ scriptJob.steps ∧ scriptStep.kind = .run (some "all") script ∧
      (DependencyCache.detectInstall? scriptJob.stepsText).isSome = true ∧
      LayerCaching.buildsImage scriptJob = true ∧ Parallelism.looksLikeTests scriptJob = true := by
  have inJob : scriptStep ∈ scriptJob.steps := List.mem_cons_of_mem _ List.mem_cons_self
  have runs : scriptStep.kind = .run (some "all") script := by decide +kernel
  obtain ⟨installs, builds, tests⟩ := rules_see_commands inJob runs (by decide +kernel)
  refine ⟨inJob, runs, installs ?_, builds ?_, tests ?_⟩
  · exact ⟨("npm ci", .nodeJs), by decide, by decide +kernel⟩
  · exact ⟨"docker build", by decide, by decide +kernel⟩
  · exact ⟨"jest", by decide, by decide +kernel⟩

end PipelineAdvisor
