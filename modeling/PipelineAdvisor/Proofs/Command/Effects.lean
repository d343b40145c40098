import PipelineAdvisor.Command.Analyze
import PipelineAdvisor.Proofs.Settings.Search

/-!
What a run does to files. Finding settings and loading the configuration only read. So everything that
can fail fails before a file is touched, and a run that succeeds has written the report and nothing
else.
-/

namespace PipelineAdvisor

open FileAccess (Reads)

variable (directory : Location)

theorem Config.reads_load (path : String) : Reads (Config.load (.ofTree directory) path) := by
  refine Reads.bind (FileAccess.reads_readText directory path) fun text => ?_
  split <;> exact Reads.pure _

theorem Config.load_eq_ok_iff {path : String} {tree : FileTree} {config : Config} :
    ((Config.load (.ofTree directory) path).run tree).1 = .ok config ↔
      ∃ source, tree.readText directory path = .ok source ∧ Config.parse source = .ok config := by
  rw [Config.load, FileAccess.run_bind, FileAccess.readText_run]
  cases tree.readText directory path with
  | ok text =>
      constructor
      · exact fun parsed => ⟨text, rfl, parsed⟩
      · rintro ⟨source, read, parsed⟩
        obtain rfl := Except.ok.inj read
        exact parsed
  | error error =>
      constructor
      · intro loaded
        cases error <;> cases loaded
      · rintro ⟨source, read, _⟩
        cases read

theorem Config.load_isOk_iff {path : String} {tree : FileTree} :
    ((Config.load (.ofTree directory) path).run tree).1.isOk = true ↔
      ∃ source config, tree.readText directory path = .ok source ∧
        Config.parse source = .ok config := by
  rw [exists_comm]
  simp only [← Config.load_eq_ok_iff]
  cases ((Config.load (.ofTree directory) path).run tree).1 <;> simp [Except.isOk, Except.toBool]

/-! Writing a report makes directories first. -/

/-- The text stands in the file of a path, and all other files are as they were. -/
def WritesOnly (tree after : FileTree) (path text : String) : Prop :=
  ∃ location, after.resolve directory path = .ok (location, .file text.toUTF8) ∧
    ∀ other, other ≠ location → after.file? other = tree.file? other

section Writing

variable (path text : String) (tree : FileTree)

def madeFor : Except FileError Unit × FileTree :=
  let parent := (FilePath.parent? path).getD ""
  if parent.isEmpty then (.ok (), tree)
  else FileTree.makeDirectories directory (parent.length + 1) parent tree

theorem madeFor_sameFiles : FileTree.SameFiles tree (madeFor directory path tree).2 := by
  rw [madeFor]
  split_ifs
  · exact FileTree.SameFiles.refl tree
  · exact FileTree.makeDirectories_sameFiles directory _ _ tree

theorem writeText_run (made : FileTree) :
    StateT.run (do
      match ← (FileAccess.ofTree directory).write path text with
      | .error error => return .error (.report path error)
      | .ok () => return .ok () : StateM FileTree (Except WriteError Unit)) made =
      match made.write directory path text with
      | .error error => (.error (.report path error), made)
      | .ok after => (.ok (), after) := by
  rw [FileAccess.run_bind, FileAccess.write_run]
  cases made.write directory path text <;> rfl

theorem writeReport_run :
    (writeReport (.ofTree directory) path text).run tree =
      match madeFor directory path tree with
      | (.error error, made) => (.error (.directory ((FilePath.parent? path).getD "") error), made)
      | (.ok (), made) =>
        match made.write directory path text with
        | .error error => (.error (.report path error), made)
        | .ok after => (.ok (), after) := by
  unfold writeReport madeFor
  dsimp only
  split_ifs
  · exact writeText_run directory path text tree
  · rw [FileAccess.run_bind, FileAccess.makeDirectories_run]
    obtain ⟨outcome, made⟩ := FileTree.makeDirectories directory _ _ tree
    cases outcome with
    | error error => rfl
    | ok _ => exact writeText_run directory path text made

/-- A report is written whole into the one file of its path, or no file is touched. -/
theorem writeReport_spec :
    match (writeReport (.ofTree directory) path text).run tree with
    | (.error _, after) => FileTree.SameFiles tree after
    | (.ok (), after) => WritesOnly directory tree after path text := by
  rw [writeReport_run]
  have before := madeFor_sameFiles directory path tree
  generalize madeFor directory path tree = result at before ⊢
  obtain ⟨outcome, made⟩ := result
  cases outcome with
  | error error => exact before
  | ok _ =>
      dsimp only
      cases written : made.write directory path text with
      | error error => exact before
      | ok after =>
          obtain ⟨location, leads, others⟩ := FileTree.write_spec written
          exact ⟨location, leads, fun other differ => (others other differ).trans (before other)⟩

theorem writeReport_isOk (other : String) :
    ((writeReport (.ofTree directory) path text).run tree).1.isOk =
      ((writeReport (.ofTree directory) path other).run tree).1.isOk := by
  rw [writeReport_run, writeReport_run]
  obtain ⟨outcome, made⟩ := madeFor directory path tree
  cases outcome with
  | error error => rfl
  | ok _ =>
      have same := FileTree.write_isOk made directory path text other
      dsimp only
      cases first : made.write directory path text <;>
        cases second : made.write directory path other <;>
          first | rfl | (rw [first, second] at same; cases same)

end Writing

namespace AnalyzeRequest

theorem run_eq (request : AnalyzeRequest) (tree : FileTree) :
    (request.run (.ofTree directory)).run tree =
      let (settings, settingsLog) :=
        ((Settings.resolve (.ofTree directory) request.settings).run tree).1
      match ((Config.load (.ofTree directory) request.configPath).run tree).1 with
      | .error error => ((.error (.load error), settingsLog), tree)
      | .ok config =>
        let result := request.analyze settings config
        let log := settingsLog ++ request.configLog config ++
          Analysis.log settings.analyzers config result
        let text := request.report settings result
        match request.output with
        | none => ((.ok ⟨result, some text⟩, log), tree)
        | some path =>
          match (writeReport (.ofTree directory) path text).run tree with
          | (.error error, after) => ((.error (.write error), log), after)
          | (.ok (), after) => ((.ok ⟨result, none⟩, log), after) := by
  rw [run, FileAccess.run_bind, Settings.reads_resolve directory request.settings tree]
  obtain ⟨settings, settingsLog⟩ :=
    ((Settings.resolve (.ofTree directory) request.settings).run tree).1
  dsimp only
  rw [FileAccess.run_bind, Config.reads_load directory request.configPath tree]
  cases ((Config.load (.ofTree directory) request.configPath).run tree).1 with
  | error error => rfl
  | ok config =>
      dsimp only
      cases request.output with
      | none => rfl
      | some path =>
          dsimp only
          rw [FileAccess.run_bind]
          obtain ⟨outcome, after⟩ := (writeReport (.ofTree directory) path
            (request.report settings (request.analyze settings config))).run tree
          cases outcome <;> rfl

theorem run_isOk (request : AnalyzeRequest) (tree : FileTree) :
    ((request.run (.ofTree directory)).run tree).1.1.isOk =
      (((Config.load (.ofTree directory) request.configPath).run tree).1.isOk &&
        request.output.all fun path =>
          ((writeReport (.ofTree directory) path "").run tree).1.isOk) := by
  rw [run_eq]
  dsimp only
  cases ((Config.load (.ofTree directory) request.configPath).run tree).1 with
  | error error => rfl
  | ok config =>
      cases request.output with
      | none => rfl
      | some path =>
          dsimp only
          generalize request.report _ _ = text
          rw [Option.all_some, writeReport_isOk directory path "" tree text]
          obtain ⟨outcome, after⟩ := (writeReport (.ofTree directory) path text).run tree
          cases outcome <;> rfl

theorem run_cases (request : AnalyzeRequest) (tree : FileTree) :
    let ran := (request.run (.ofTree directory)).run tree
    let settings := ((Settings.resolve (.ofTree directory) request.settings).run tree).1.1
    let loaded := ((Config.load (.ofTree directory) request.configPath).run tree).1
    (∃ reason, loaded = .error reason ∧ ran.1.1 = .error (.load reason) ∧ ran.2 = tree) ∨
      ∃ config, loaded = .ok config ∧
        let result := request.analyze settings config
        let text := request.report settings result
        (request.output = none ∧ ran.1.1 = .ok ⟨result, some text⟩ ∧ ran.2 = tree) ∨
          ∃ path, request.output = some path ∧
            ((∃ reason, ran.1.1 = .error (.write reason) ∧ FileTree.SameFiles tree ran.2) ∨
              (ran.1.1 = .ok ⟨result, none⟩ ∧ WritesOnly directory tree ran.2 path text)) := by
  dsimp only
  rw [run_eq]
  dsimp only
  cases ((Config.load (.ofTree directory) request.configPath).run tree).1 with
  | error reason => exact Or.inl ⟨reason, rfl, rfl, rfl⟩
  | ok config =>
      refine Or.inr ⟨config, rfl, ?_⟩
      cases request.output with
      | none => exact Or.inl ⟨rfl, rfl, rfl⟩
      | some path =>
          refine Or.inr ⟨path, rfl, ?_⟩
          dsimp only
          generalize request.report _ _ = text
          have spec := writeReport_spec directory path text tree
          generalize (writeReport (.ofTree directory) path text).run tree = written at spec ⊢
          obtain ⟨outcome, after⟩ := written
          cases outcome with
          | error reason => exact Or.inl ⟨reason, rfl, spec⟩
          | ok _ => exact Or.inr ⟨rfl, spec⟩

/-- A run that fails leaves all files as they are, and the whole tree if no configuration is loaded. A
run that succeeds prints the report of the configuration or writes it into the file of the output path
and touches no other file; format and threshold are those asked for, else those of the settings, else
the defaults. The settings are those in the file that is given, or the defaults if it cannot be used;
without a given file they are those that a search finds. No settings make a run fail: it succeeds just
if the configuration can be read and the report can be written. -/
theorem run_effects (request : AnalyzeRequest) (tree : FileTree) :
    let ran := (request.run (.ofTree directory)).run tree
    let settings := ((Settings.resolve (.ofTree directory) request.settings).run tree).1.1
    (∀ error, ran.1.1 = .error error →
        FileTree.SameFiles tree ran.2 ∧ ∀ reason, error = .load reason → ran.2 = tree) ∧
      (∀ done, ran.1.1 = .ok done → ∃ source config,
        tree.readText directory request.configPath = .ok source ∧
          Config.parse source = .ok config ∧
          done.result = request.analyze settings config ∧
          let text := done.result.report ((request.format.or settings.output.format).getD .terminal)
            { threshold := request.threshold.or settings.output.threshold, color := request.color }
          (request.output = none → done.printed = some text ∧ ran.2 = tree) ∧
            ∀ path, request.output = some path →
              done.printed = none ∧ WritesOnly directory tree ran.2 path text) ∧
      (∀ path, request.settings = some path →
        (∀ text given, tree.readText directory path = .ok text →
          Settings.parse text = .ok given → settings = given) ∧
        ((∀ text found, tree.readText directory path = .ok text → Settings.parse text ≠ .ok found) →
          settings = {})) ∧
      (request.settings = none → settings = Settings.found directory tree ∧
        (tree.IsWorkingDirectory directory → settings =
          ((Settings.searched directory).findSome? (Settings.offered? tree)).getD {})) ∧
      (ran.1.1.isOk = true ↔
        (∃ source config, tree.readText directory request.configPath = .ok source ∧
          Config.parse source = .ok config) ∧
        ∀ path, request.output = some path →
          ((writeReport (.ofTree directory) path "").run tree).1.isOk = true) ∧
      ∀ given, (({ request with settings := given }.run (.ofTree directory)).run tree).1.1.isOk =
        ran.1.1.isOk := by
  intro ran settings
  have ends := run_cases directory request tree
  have resolved : settings = _ := Settings.resolve_run directory tree request.settings
  refine ⟨?_, ?_, ?_, ?_, ?_, ?_⟩
  · intro error failed
    rcases ends with ⟨_, _, ended, same⟩ |
      ⟨config, _, ⟨_, ended, _⟩ | ⟨path, _, ⟨_, ended, same⟩ | ⟨ended, _⟩⟩⟩
    · exact ⟨same ▸ FileTree.SameFiles.refl _, fun _ _ => same⟩
    · cases failed.symm.trans ended
    · refine ⟨same, ?_⟩
      rintro reason rfl
      cases failed.symm.trans ended
    · cases failed.symm.trans ended
  · intro done succeeded
    rcases ends with ⟨_, _, ended, _⟩ |
      ⟨config, loaded, ⟨printed, ended, same⟩ | ⟨path, wanted, ⟨_, ended, _⟩ | ⟨ended, written⟩⟩⟩
    · cases succeeded.symm.trans ended
    · obtain ⟨source, read, parsed⟩ := (Config.load_eq_ok_iff directory).mp loaded
      obtain rfl := Except.ok.inj (succeeded.symm.trans ended)
      refine ⟨source, config, read, parsed, rfl, fun _ => ⟨rfl, same⟩, ?_⟩
      intro path wanted
      cases printed.symm.trans wanted
    · cases succeeded.symm.trans ended
    · obtain ⟨source, read, parsed⟩ := (Config.load_eq_ok_iff directory).mp loaded
      obtain rfl := Except.ok.inj (succeeded.symm.trans ended)
      refine ⟨source, config, read, parsed, rfl, ?_, ?_⟩
      · intro printed
        cases printed.symm.trans wanted
      · intro other known
        obtain rfl := Option.some.inj (wanted.symm.trans known)
        exact ⟨rfl, written⟩
  · intro path known
    rw [known] at resolved
    constructor
    · intro text given read parsed
      rw [resolved]
      exact congrArg (·.getD {}) (Settings.readable?_of_parse read parsed)
    · intro unusable
      rw [resolved]
      exact congrArg (·.getD {}) (Settings.readable?_eq_none unusable)
  · intro none
    rw [none] at resolved
    exact ⟨resolved, fun works => resolved.trans (Settings.found_of_works works)⟩
  · rw [run_isOk, Bool.and_eq_true, Config.load_isOk_iff, Option.all_eq_true]
  · intro given
    rw [run_isOk, run_isOk]

end AnalyzeRequest

end PipelineAdvisor
