import Mathlib.Tactic.FinCases
import PipelineAdvisor.Settings.Discovery
import PipelineAdvisor.Proofs.Files.Paths
import PipelineAdvisor.Proofs.Files.Reading

/-!
What a search for settings finds. It is a function of ten files at most, those with the name of settings
files in the working directory and in the directories above it. The nearest of them that holds settings
decides, and without one the defaults stand; what the others hold does not matter. A run that is given
a settings file uses that file and searches nothing.
-/

namespace PipelineAdvisor.Settings

open FileAccess (Reads absolutePath run_bind)
open FilePath (IsName)

/-- The settings that the content of a file stands for: it must be a text in UTF-8 that can be
parsed. -/
def ofContent? (content : ByteArray) : Option Settings :=
  (String.fromUTF8? content).bind fun text => (parse text).toOption

/-- The settings in a directory: those in the regular file there that has the name of settings files.
The system opens no file whose absolute path has 4096 bytes or more. -/
def offered? (tree : FileTree) (directory : Location) : Option Settings :=
  if 4096 ≤ (absolutePath (directory ++ [fileName])).utf8ByteSize then none
  else (tree.file? (directory ++ [fileName])).bind ofContent?

/-- A search looks into the directory that it starts from and into those above it, ten in all. -/
def IsSearched (directory above : Location) : Prop :=
  above <+: directory ∧ directory.length < above.length + 10

def found (directory : Location) (tree : FileTree) : Settings :=
  ((discover (.ofTree directory)).run tree).1.1

/-! Finding settings only reads. -/

section Reading

variable (directory : Location)

theorem reads_tryFile (path : String) : Reads (tryFile (.ofTree directory) path) := by
  refine Reads.bind (FileAccess.reads_isFile directory path) fun known => ?_
  split
  · exact Reads.pure _
  refine Reads.bind (FileAccess.reads_readText directory path) fun text => ?_
  split
  · exact Reads.pure _
  · split <;> exact Reads.pure _

theorem reads_firstUsable (paths : List String) : Reads (firstUsable (.ofTree directory) paths) := by
  induction paths with
  | nil => exact Reads.pure _
  | cons path rest ih =>
      refine Reads.bind (reads_tryFile directory path) fun found => ?_
      split
      · exact Reads.pure _
      · exact Reads.bind ih fun _ => Reads.pure _

theorem reads_discover : Reads (discover (.ofTree directory)) := by
  refine Reads.bind (Reads.pure _) fun working => ?_
  split
  · exact Reads.pure _
  · refine Reads.bind (reads_firstUsable directory _) fun found => ?_
    split <;> exact Reads.pure _

theorem reads_loadFrom (path : String) : Reads (loadFrom (.ofTree directory) path) := by
  refine Reads.bind (FileAccess.reads_readText directory path) fun text => ?_
  split <;> exact Reads.pure _

theorem reads_resolve (given : Option String) : Reads (resolve (.ofTree directory) given) := by
  cases given with
  | none => exact Reads.bind (reads_discover directory) fun _ => Reads.pure _
  | some path =>
      refine Reads.bind (reads_loadFrom directory path) fun loaded => ?_
      split <;> exact Reads.bind (Reads.pure _) fun _ => Reads.pure _

end Reading

/-! The search as a function of the files that its paths lead to. -/

section Run

variable (directory : Location) (tree : FileTree)

def readable? (path : String) : Option Settings :=
  (tree.readText directory path).toOption.bind fun text => (parse text).toOption

theorem readable?_of_parse {directory : Location} {tree : FileTree} {path text : String}
    {settings : Settings} (read : tree.readText directory path = .ok text)
    (parsed : parse text = .ok settings) : readable? directory tree path = some settings := by
  rw [readable?, read]
  exact congrArg Except.toOption parsed

theorem readable?_eq_none {directory : Location} {tree : FileTree} {path : String}
    (unusable : ∀ text found, tree.readText directory path = .ok text → parse text ≠ .ok found) :
    readable? directory tree path = none := by
  rw [readable?]
  cases read : tree.readText directory path with
  | error error => rfl
  | ok text =>
      cases parsed : parse text with
      | error message => exact congrArg Except.toOption parsed
      | ok found => exact absurd parsed (unusable text found read)

theorem readable?_of_not_isFile {path : String} (absent : tree.isFile directory path = false) :
    readable? directory tree path = none := by
  rw [FileTree.isFile] at absent
  rw [readable?, FileTree.readText]
  cases leads : tree.resolve directory path with
  | error error => rfl
  | ok entry =>
      obtain ⟨location, content | _⟩ := entry
      · rw [leads] at absent
        cases absent
      · rfl

theorem tryFile_run (path : String) :
    ((tryFile (.ofTree directory) path).run tree).1.1 = readable? directory tree path := by
  have known : ((FileAccess.ofTree directory).isFile path).run tree =
      (tree.isFile directory path, tree) := rfl
  rw [tryFile, run_bind, known]
  dsimp only
  cases isFile : tree.isFile directory path with
  | false => exact (readable?_of_not_isFile directory tree isFile).symm
  | true =>
      rw [Bool.not_true, if_neg Bool.false_ne_true, run_bind, FileAccess.readText_run, readable?]
      cases tree.readText directory path with
      | error error => rfl
      | ok text =>
          dsimp only [Except.toOption, Option.bind_some]
          cases parse text <;> rfl

theorem firstUsable_run (paths : List String) :
    ((firstUsable (.ofTree directory) paths).run tree).1.1 =
      paths.findSome? (readable? directory tree) := by
  induction paths with
  | nil => rfl
  | cons path rest ih =>
      have same := reads_tryFile directory path tree
      rw [List.findSome?_cons, ← tryFile_run, firstUsable, run_bind, same]
      obtain ⟨offer, log⟩ := ((tryFile (.ofTree directory) path).run tree).1
      cases offer with
      | some settings => rfl
      | none => exact ih

theorem found_eq :
    found directory tree =
      ((candidates (absolutePath directory)).findSome? (readable? directory tree)).getD {} := by
  have known : (FileAccess.ofTree directory).workingDirectory.run tree =
      (.ok (absolutePath directory), tree) := rfl
  rw [← firstUsable_run, found, discover, run_bind, known]
  dsimp only
  rw [run_bind]
  obtain ⟨offer, log⟩ :=
    ((firstUsable (.ofTree directory) (candidates (absolutePath directory))).run tree).1
  cases offer <;> rfl

theorem loadFrom_run (path : String) :
    ((loadFrom (.ofTree directory) path).run tree).1.toOption = readable? directory tree path := by
  rw [loadFrom, run_bind, FileAccess.readText_run, readable?]
  cases tree.readText directory path <;> rfl

/-- A run uses the settings in the file that it is given, and searches only without one. -/
theorem resolve_run (given : Option String) :
    ((resolve (.ofTree directory) given).run tree).1.1 =
      match given with
      | none => found directory tree
      | some path => (readable? directory tree path).getD {} := by
  cases given with
  | none => rfl
  | some path =>
      have same := reads_loadFrom directory path tree
      rw [resolve]
      dsimp only
      rw [← loadFrom_run, run_bind, same]
      cases ((loadFrom (.ofTree directory) path).run tree).1 <;> rfl

end Run

/-! The paths of a search lead to the settings files of the searched directories. -/

variable {directory above : Location} {tree : FileTree}

theorem isName_fileName : IsName fileName where
  filled := by decide
  not_dot := by decide
  not_dots := by decide
  no_slash := by decide
  no_null := by decide
  short := by decide

def searched (directory : Location) : List Location :=
  directory.inits.reverse.take searchedDirectories

theorem candidates_absolutePath (names : ∀ name ∈ directory, IsName name) :
    candidates (absolutePath directory) =
      (searched directory).map fun above => absolutePath (above ++ [fileName]) := by
  rw [candidates, FilePath.upward_absolutePath searchedDirectories names, List.map_map]
  refine List.map_congr_left fun above known => ?_
  have isAbove : above <+: directory := by
    simpa using List.mem_of_mem_take known
  exact FilePath.inside_absolutePath (fun name inside => names name (isAbove.subset inside)) fileName

theorem readable?_absolutePath (origin : Location) (works : tree.IsWorkingDirectory directory) :
    readable? origin tree (absolutePath (directory ++ [fileName])) = offered? tree directory := by
  rw [readable?, FileTree.readText, FileTree.resolve_absolutePath origin works isName_fileName,
    offered?, FileTree.longestPath, FileTree.file?]
  split_ifs
  · rfl
  · rcases tree.entry? (directory ++ [fileName]) with _ | content | _
    · rfl
    · simp only [bind, Except.bind, Option.bind_some, ofContent?]
      cases String.fromUTF8? content <;> rfl
    · rfl

theorem findSome?_congr_left {α β : Type} {first second : α → Option β} {items : List α}
    (same : ∀ item ∈ items, first item = second item) :
    items.findSome? first = items.findSome? second := by
  rw [← Function.id_comp first, ← Function.id_comp second, ← List.findSome?_map,
    ← List.findSome?_map, List.map_congr_left same]

theorem mem_take_reverse_inits (count : Nat) :
    above ∈ directory.inits.reverse.take count ↔
      above <+: directory ∧ directory.length < above.length + count := by
  induction directory using List.reverseRecOn generalizing count with
  | nil => cases count <;> simp +contextual
  | append_singleton directory name ih =>
      have nearest : (directory ++ [name]).inits.reverse =
          (directory ++ [name]) :: directory.inits.reverse := by simp
      rw [nearest, List.prefix_concat_iff]
      cases count with
      | zero =>
          simp only [List.take_zero, List.not_mem_nil, false_iff, not_and, not_lt]
          rintro (rfl | isAbove)
          · exact le_rfl
          · exact (isAbove.trans (List.prefix_append _ _)).length_le
      | succ count =>
          rw [List.take_succ_cons, List.mem_cons, ih]
          constructor
          · rintro (rfl | ⟨isAbove, near⟩)
            · exact ⟨Or.inl rfl, by omega⟩
            · exact ⟨Or.inr isAbove, by rw [List.length_append, List.length_singleton]; omega⟩
          · rintro ⟨rfl | isAbove, near⟩
            · exact Or.inl rfl
            · rw [List.length_append, List.length_singleton] at near
              exact Or.inr ⟨isAbove, by omega⟩

theorem mem_searched : above ∈ searched directory ↔ IsSearched directory above :=
  mem_take_reverse_inits searchedDirectories

theorem pairwise_searched (directory : Location) :
    (searched directory).Pairwise fun nearer above => above.length < nearer.length := by
  refine List.Pairwise.take (List.pairwise_reverse.mpr (List.pairwise_iff_getElem.mpr ?_))
  intro low high _ bound lower
  rw [List.length_inits] at bound
  rw [List.getElem_inits, List.getElem_inits, List.length_take, List.length_take]
  omega

/-- A search ends with what the first of the searched directories offers that offers anything. -/
theorem found_of_works (works : tree.IsWorkingDirectory directory) :
    found directory tree = ((searched directory).findSome? (offered? tree)).getD {} := by
  rw [found_eq, candidates_absolutePath works.names, List.findSome?_map, findSome?_congr_left]
  intro above known
  exact readable?_absolutePath directory (works.of_prefix (mem_searched.mp known).1)

/-! What decides, and what does not matter. -/

/-- The searched directories nearer than a directory offer nothing. -/
def IsFirst (tree : FileTree) (directory above : Location) : Prop :=
  ∀ nearer, IsSearched directory nearer → above.length < nearer.length →
    offered? tree nearer = none

theorem found_of_isFirst {chosen : Location} {settings : Settings}
    (works : tree.IsWorkingDirectory directory) (reached : IsSearched directory chosen)
    (offers : offered? tree chosen = some settings) (first : IsFirst tree directory chosen) :
    found directory tree = settings := by
  obtain ⟨near, far, split⟩ := List.append_of_mem (mem_searched.mpr reached)
  have sorted := pairwise_searched directory
  rw [split, List.pairwise_append] at sorted
  have passed : ∀ nearer ∈ near, offered? tree nearer = none := fun nearer known =>
    first nearer (mem_searched.mp (split ▸ List.mem_append_left _ known))
      (sorted.2.2 nearer known chosen List.mem_cons_self)
  rw [found_of_works works,
    List.findSome?_eq_some_iff.mpr ⟨near, chosen, far, split, offers, passed⟩, Option.getD_some]

theorem found_of_none (works : tree.IsWorkingDirectory directory)
    (nowhere : ∀ above, IsSearched directory above → offered? tree above = none) :
    found directory tree = {} := by
  rw [found_of_works works, List.findSome?_eq_none_iff.mpr fun above known =>
    nowhere above (mem_searched.mp known), Option.getD_none]

theorem first_or_none (tree : FileTree) (directory : Location) :
    (∃ chosen settings, IsSearched directory chosen ∧ offered? tree chosen = some settings ∧
      IsFirst tree directory chosen) ∨
      ∀ above, IsSearched directory above → offered? tree above = none := by
  cases offers : (searched directory).findSome? (offered? tree) with
  | none =>
      exact Or.inr fun above known =>
        List.findSome?_eq_none_iff.mp offers above (mem_searched.mpr known)
  | some settings =>
      obtain ⟨near, chosen, far, split, offers, passed⟩ := List.findSome?_eq_some_iff.mp offers
      have reached : chosen ∈ searched directory := by simp [split]
      have sorted := pairwise_searched directory
      rw [split, List.pairwise_append, List.pairwise_cons] at sorted
      refine Or.inl ⟨chosen, settings, mem_searched.mp reached, offers, fun nearer known longer => ?_⟩
      have listed := mem_searched.mpr known
      rw [split, List.mem_append, List.mem_cons] at listed
      rcases listed with inNear | rfl | inFar
      · exact passed nearer inNear
      · exact absurd longer (lt_irrefl _)
      · exact absurd longer (sorted.2.1.1 nearer inFar).not_gt

theorem found_congr {other : FileTree} (works : tree.IsWorkingDirectory directory)
    (alsoWorks : other.IsWorkingDirectory directory)
    (same : ∀ above, IsSearched directory above → IsFirst tree directory above →
      offered? other above = offered? tree above) :
    found directory other = found directory tree := by
  rcases first_or_none tree directory with ⟨chosen, settings, reached, offers, first⟩ | nowhere
  · rw [found_of_isFirst works reached offers first]
    refine found_of_isFirst alsoWorks reached ((same chosen reached first).trans offers) ?_
    intro nearer known longer
    rw [same nearer known fun above between further => first above between (longer.trans further)]
    exact first nearer known longer
  · rw [found_of_none works nowhere]
    refine found_of_none alsoWorks fun above known => ?_
    rw [same above known fun nearer known _ => nowhere nearer known]
    exact nowhere above known

section Adding

variable {location : Location} {content : ByteArray}

theorem works_put (works : tree.IsWorkingDirectory directory)
    (absent : tree.entry? location = none) :
    (tree.put location (.file content)).IsWorkingDirectory directory where
  names := works.names
  exist above isAbove := by
    have elsewhere : above ≠ location := by
      rintro rfl
      cases absent.symm.trans (works.exist above isAbove)
    rw [FileTree.entry?_put_of_ne elsewhere, works.exist above isAbove]

theorem offered?_put (absent : tree.entry? location = none) (useless : ofContent? content = none)
    (above : Location) :
    offered? (tree.put location (.file content)) above = offered? tree above := by
  rw [offered?, offered?]
  by_cases same : above ++ [fileName] = location
  · have below : location ≠ [] := by
      rintro rfl
      exact absurd same (by simp)
    rw [same, FileTree.file?, FileTree.file?, FileTree.entry?_put_self below, absent]
    simp [useless]
  · rw [FileTree.file?_put_of_ne same]

end Adding

/-- A search leaves the tree as it is and always ends with settings: those that the nearest searched
directory offers that offers any, or the defaults. Files matter only in searched directories, and there
only if no nearer directory offers settings; and a new file that holds no settings changes nothing,
wherever it stands. -/
theorem discover_spec (works : tree.IsWorkingDirectory directory) :
    ((discover (.ofTree directory)).run tree).2 = tree ∧
      (∀ chosen settings, IsSearched directory chosen → offered? tree chosen = some settings →
        IsFirst tree directory chosen → found directory tree = settings) ∧
      ((∀ above, IsSearched directory above → offered? tree above = none) →
        found directory tree = {}) ∧
      (∀ other : FileTree, other.IsWorkingDirectory directory →
        (∀ above, IsSearched directory above → IsFirst tree directory above →
          other.file? (above ++ [fileName]) = tree.file? (above ++ [fileName])) →
        found directory other = found directory tree) ∧
      ∀ location content, tree.entry? location = none → ofContent? content = none →
        found directory (tree.put location (.file content)) = found directory tree := by
  refine ⟨reads_discover directory tree, fun chosen settings => found_of_isFirst works,
    found_of_none works, ?_, ?_⟩
  · intro other alsoWorks same
    refine found_congr works alsoWorks fun above known first => ?_
    rw [offered?, offered?, same above known first]
  · intro location content absent useless
    exact found_congr works (works_put works absent) fun above _ _ =>
      offered?_put absent useless above

/-- Settings at the root. Nearer to the directory of the project, the name of settings files is that
of a file that is no text, of one that cannot be parsed, and of a directory. -/
def layeredTree : FileTree where
  entries :=
    [([fileName], .file "parallel = true".toUTF8),
      (["home"], .directory), (["home", fileName], .file ⟨#[0xff]⟩),
      (["home", "ci"], .directory), (["home", "ci", fileName], .file "parallel".toUTF8),
      (["home", "ci", "app"], .directory), (["home", "ci", "app", fileName], .directory)]

theorem discover_layeredTree :
    layeredTree.IsWorkingDirectory ["home", "ci", "app"] ∧
      found ["home", "ci", "app"] layeredTree = { parallel := true } ∧
      found ["home", "ci", "app"] (layeredTree.put ["home", "ci", "new"] (.file "x".toUTF8)) =
        found ["home", "ci", "app"] layeredTree := by
  have works : layeredTree.IsWorkingDirectory ["home", "ci", "app"] := by
    refine ⟨?_, fun above isAbove => ?_⟩
    · simp only [List.forall_mem_cons, List.not_mem_nil, false_imp_iff, implies_true, and_true]
      exact ⟨by constructor <;> decide, by constructor <;> decide, by constructor <;> decide⟩
    · rw [← List.mem_inits] at isAbove
      fin_cases isAbove <;> rfl
  have spec := discover_spec works
  refine ⟨works, spec.2.1 [] _ ⟨List.nil_prefix, by decide⟩ (by decide +kernel) ?_,
    spec.2.2.2.2 _ _ rfl (by decide +kernel)⟩
  rintro nearer ⟨isAbove, -⟩ longer
  rw [← List.mem_inits] at isAbove
  fin_cases isAbove
  · exact absurd longer (lt_irrefl 0)
  all_goals decide +kernel

end PipelineAdvisor.Settings
