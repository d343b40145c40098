import Mathlib.Data.List.DropRight
import Mathlib.Data.List.Infix
import Mathlib.Tactic.Common
import PipelineAdvisor.Files.Tree
import PipelineAdvisor.Proofs.Files.Tree
import PipelineAdvisor.Proofs.Text.Joining

/-!
Absolute paths. The absolute path of a location leads back to the location: the names between its
slashes are those on the way from the root, its parent is the path of the location above, and going
upwards from it passes the locations above one after the other.
-/

namespace PipelineAdvisor

namespace FilePath

open FileAccess (absolutePath)

structure IsName (name : String) : Prop where
  filled : name ≠ ""
  not_dot : name ≠ "."
  not_dots : name ≠ ".."
  no_slash : '/' ∉ name.toList
  no_null : '\x00' ∉ name.toList
  short : name.utf8ByteSize ≤ FileTree.longestName

/-! Pieces between slashes. -/

theorem pieces_of_no_slash {piece : List Char} (clean : '/' ∉ piece) : pieces piece = [piece] := by
  induction piece with
  | nil => rfl
  | cons c rest ih =>
      obtain ⟨differs, clean⟩ := not_or.mp (List.mem_cons.not.mp clean)
      rw [pieces, if_neg (Ne.symm differs), ih clean]

theorem pieces_append_slash {piece : List Char} (clean : '/' ∉ piece) (rest : List Char) :
    pieces (piece ++ '/' :: rest) = piece :: pieces rest := by
  induction piece with
  | nil => rfl
  | cons c others ih =>
      obtain ⟨differs, clean⟩ := not_or.mp (List.mem_cons.not.mp clean)
      rw [List.cons_append, pieces, if_neg (Ne.symm differs), ih clean]

theorem pieces_join {parts : List (List Char)} (filled : parts ≠ [])
    (clean : ∀ part ∈ parts, '/' ∉ part) : pieces (join parts) = parts := by
  induction parts with
  | nil => exact absurd rfl filled
  | cons part rest ih =>
      obtain ⟨first, others⟩ := List.forall_mem_cons.mp clean
      cases rest with
      | nil => exact pieces_of_no_slash first
      | cons next more => rw [join, pieces_append_slash first, ih (List.cons_ne_nil _ _) others]

theorem join_eq_intercalate (parts : List (List Char)) : join parts = ['/'].intercalate parts := by
  induction parts with
  | nil => rfl
  | cons part rest ih =>
      cases rest with
      | nil => simp [join]
      | cons next more => rw [join, ih, List.intercalate_cons_cons, List.append_assoc]; rfl

theorem dropIdle_eq_self {parts : List (List Char)} (busy : ∀ part ∈ parts, isIdle part = false) :
    dropIdle parts = parts :=
  List.rdropWhile_eq_self_iff.mpr fun nonempty =>
    Bool.not_eq_true _ ▸ busy _ (List.getLast_mem nonempty)

theorem IsName.isIdle {name : String} (isName : IsName name) : isIdle name.toList = false := by
  have filled : name.toList ≠ [] := mt String.toList_eq_nil_iff.mp isName.filled
  have not_dot : name.toList ≠ ['.'] := fun same => isName.not_dot (String.toList_inj.mp same)
  simp [FilePath.isIdle, filled, not_dot]

/-! The absolute path of a location. -/

variable {location : Location} {name : String}

theorem toList_absolutePath (location : Location) :
    (absolutePath location).toList = '/' :: join (location.map String.toList) := by
  rw [absolutePath, String.toList_append, String.toList_intercalate, join_eq_intercalate]
  rfl

theorem absolutePath_concat (below : location ≠ []) (name : String) :
    absolutePath (location ++ [name]) = absolutePath location ++ "/" ++ name := by
  rw [absolutePath, absolutePath, String.intercalate_append_of_ne_nil below (List.cons_ne_nil _ _),
    String.intercalate_singleton, String.append_assoc, String.append_assoc, String.append_assoc]

theorem pieces_absolutePath (below : location ≠ []) (names : ∀ name ∈ location, IsName name) :
    (pieces (absolutePath location).toList).map String.ofList = "" :: location := by
  have clean : ∀ part ∈ location.map String.toList, '/' ∉ part :=
    List.forall_mem_map.mpr fun name inside => (names name inside).no_slash
  rw [toList_absolutePath, pieces, if_pos rfl, pieces_join (by simpa using below) clean]
  simp [Function.comp_def, String.ofList_toList]

theorem parent?_root : parent? (absolutePath []) = none := by
  decide

theorem parent?_absolutePath (names : ∀ known ∈ location ++ [name], IsName known) :
    parent? (absolutePath (location ++ [name])) = some (absolutePath location) := by
  have clean : ∀ part ∈ (location ++ [name]).map String.toList, '/' ∉ part :=
    List.forall_mem_map.mpr fun known inside => (names known inside).no_slash
  have busy : ∀ part ∈ (location ++ [name]).map String.toList, isIdle part = false :=
    List.forall_mem_map.mpr fun known inside => (names known inside).isIdle
  have busyAbove : ∀ part ∈ location.map String.toList, isIdle part = false :=
    List.forall_mem_map.mpr fun known inside =>
      (names known (List.mem_append_left _ inside)).isIdle
  have body : dropIdle (pieces (join ((location ++ [name]).map String.toList))) =
      (location ++ [name]).map String.toList := by
    rw [pieces_join (by simp) clean, dropIdle_eq_self busy]
  simp only [parent?, toList_absolutePath, splitStart, body]
  rw [if_neg (by simp), List.map_append, List.map_singleton, List.dropLast_concat,
    dropIdle_eq_self busyAbove]
  refine congrArg some (String.toList_inj.mp ?_)
  rw [String.toList_ofList, toList_absolutePath]
  rfl

theorem upward_absolutePath (count : Nat) (names : ∀ name ∈ location, IsName name) :
    upward count (absolutePath location) =
      (location.inits.reverse.take count).map absolutePath := by
  induction count generalizing location with
  | zero => rfl
  | succ count ih =>
      rw [upward]
      rcases List.eq_nil_or_concat' location with rfl | ⟨above, name, rfl⟩
      · rw [parent?_root]
        simp
      · rw [parent?_absolutePath names, Option.elim_some,
          ih fun known inside => names known (List.mem_append_left _ inside)]
        simp

theorem endsWith_slash_iff (path : String) :
    path.endsWith "/" = true ↔ ['/'] <:+ path.toList := by
  rw [← String.endsWith_toSlice, String.Slice.endsWith_string_iff, String.copy_toSlice]
  rfl

theorem endsWith_slash_of_isName (front : String) (isName : IsName name) :
    (front ++ name).endsWith "/" = false := by
  rw [Bool.eq_false_iff, ne_eq, endsWith_slash_iff, String.toList_append]
  intro slash
  have filled : 1 ≤ name.toList.length :=
    List.length_pos_of_ne_nil (mt String.toList_eq_nil_iff.mp isName.filled)
  have within : ['/'] <:+ name.toList :=
    List.suffix_of_suffix_length_le slash (List.suffix_append _ _) filled
  exact isName.no_slash (within.subset List.mem_cons_self)

theorem inside_absolutePath (names : ∀ name ∈ location, IsName name) (name : String) :
    inside (absolutePath location) name = absolutePath (location ++ [name]) := by
  rcases List.eq_nil_or_concat' location with rfl | ⟨above, last, rfl⟩
  · have root : absolutePath [] = "/" := by decide
    rw [root, inside, (endsWith_slash_iff "/").mpr (by decide)]
    simp [absolutePath]
  · have ending : ∃ front, absolutePath (above ++ [last]) = front ++ last := by
      cases above with
      | nil => exact ⟨"/", by simp [absolutePath]⟩
      | cons first rest => exact ⟨_, absolutePath_concat (List.cons_ne_nil first rest) last⟩
    obtain ⟨front, ending⟩ := ending
    have isName := names last (by simp)
    have filled : (absolutePath (above ++ [last])).isEmpty = false := by
      rw [ending, String.isEmpty_eq_false_iff]
      simp [isName.filled]
    have below : above ++ [last] ≠ [] := by simp
    rw [absolutePath_concat below, inside, filled, ending, endsWith_slash_of_isName front isName,
      if_neg (by simp)]

end FilePath

namespace FileTree

open FilePath (IsName)
open FileAccess (absolutePath)

/-- The location of a directory that a program can work in: it has a name at every step of the way,
and all directories above it exist. -/
structure IsWorkingDirectory (tree : FileTree) (directory : Location) : Prop where
  names : ∀ name ∈ directory, IsName name
  exist : ∀ above, above <+: directory → tree.entry? above = some .directory

section Walk

variable {tree : FileTree} {origin directory : Location} {name : String}

theorem walk_name (isDirectory : tree.entry? origin = some .directory) (isName : IsName name)
    (rest : List String) : tree.walk origin (name :: rest) = tree.walk (origin ++ [name]) rest := by
  have moves : ¬(name = "" ∨ name = ".") := not_or.mpr ⟨isName.filled, isName.not_dot⟩
  rw [walk, demandDirectory, isDirectory]
  simp only [bind, Except.bind]
  rw [if_neg moves, if_neg isName.not_dots, if_neg (Nat.not_lt.mpr isName.short)]

theorem IsWorkingDirectory.of_prefix {above : Location} (works : tree.IsWorkingDirectory directory)
    (isAbove : above <+: directory) : tree.IsWorkingDirectory above where
  names _ inside := works.names _ (isAbove.subset inside)
  exist _ higher := works.exist _ (higher.trans isAbove)

theorem IsWorkingDirectory.walk_eq (works : tree.IsWorkingDirectory directory) :
    tree.walk [] directory = .ok directory := by
  induction directory using List.reverseRecOn with
  | nil => rfl
  | append_singleton above name ih =>
      have isDirectory := works.exist above (List.prefix_append _ _)
      rw [walk_append, ih (works.of_prefix (List.prefix_append _ _))]
      exact walk_name isDirectory (works.names name (by simp)) []

theorem start_absolutePath (origin : Location) {location : Location} (below : location ≠ [])
    (names : ∀ name ∈ location, IsName name) :
    start origin (absolutePath location) =
      if longestPath ≤ (absolutePath location).utf8ByteSize then .error .nameTooLong
      else .ok ([], "" :: location) := by
  have filled : (absolutePath location).isEmpty = false := by
    rw [String.isEmpty_eq_false_iff]
    simp [absolutePath]
  have printable : (absolutePath location).contains '\x00' = false := by
    rw [String.contains_char_eq, decide_eq_false_iff_not, absolutePath,
      String.toList_append, List.mem_append, not_or]
    refine ⟨by decide, fun null => ?_⟩
    rcases mem_of_mem_joined null with slash | ⟨name, known, inName⟩
    · exact absurd slash (by decide)
    · exact (names name known).no_null inName
  have rooted : (absolutePath location).startsWith "/" = true := by
    rw [String.startsWith_string_iff, FilePath.toList_absolutePath]
    exact ⟨_, rfl⟩
  rw [start, FilePath.pieces_absolutePath below names, filled, printable, rooted]
  simp only [Bool.false_eq_true, if_false, if_true]

theorem resolve_absolutePath (origin : Location) (works : tree.IsWorkingDirectory directory)
    (isName : IsName name) :
    tree.resolve origin (absolutePath (directory ++ [name])) =
      if longestPath ≤ (absolutePath (directory ++ [name])).utf8ByteSize then .error .nameTooLong
      else match tree.entry? (directory ++ [name]) with
        | some entry => .ok (directory ++ [name], entry)
        | none => .error .notFound := by
  have names : ∀ known ∈ directory ++ [name], IsName known := by
    simpa [or_imp, forall_and] using ⟨works.names, isName⟩
  have reached : tree.walk [] ("" :: (directory ++ [name])) = .ok (directory ++ [name]) := by
    have isDirectory := works.exist directory List.prefix_rfl
    change tree.walk [] (directory ++ [name]) = _
    rw [walk_append, works.walk_eq]
    exact walk_name isDirectory isName []
  rw [resolve, start_absolutePath origin (by simp) names]
  split_ifs
  · rfl
  · simp only [bind, Except.bind, reached]
    cases tree.entry? (directory ++ [name]) <;> rfl

end Walk

end FileTree

end PipelineAdvisor
