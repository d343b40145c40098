import Mathlib.Data.List.DropRight
import Mathlib.Tactic.Common
import PipelineAdvisor.Files.Tree
import PipelineAdvisor.Proofs.Yaml.Keys

/-!
What operations on a tree leave alone. Making directories touches no file, and writing touches the one
file that the path leads to afterwards. Both only put something where no directory stands, so every
path that could be followed before leads to the same location after.
-/

namespace PipelineAdvisor.FileTree

def SameFiles (tree other : FileTree) : Prop :=
  ∀ location, other.file? location = tree.file? location

theorem SameFiles.refl (tree : FileTree) : SameFiles tree tree :=
  fun _ => rfl

theorem SameFiles.trans {first second third : FileTree} (before : SameFiles first second)
    (after : SameFiles second third) : SameFiles first third :=
  fun location => (after location).trans (before location)

section Put

variable {tree : FileTree} {location : Location} {entry : FileEntry}

theorem entry?_put_self (below : location ≠ []) :
    entry? (tree.put location entry) location = some entry := by
  simp [ entry?, put, below]

theorem entry?_put_of_ne {other : Location} (differ : other ≠ location) :
    entry? (tree.put location entry) other = tree.entry? other := by
  have unlike : (location == other) = false := beq_eq_false_iff_ne.mpr (Ne.symm differ)
  have kept : (tree.entries.filter fun old => old.1 != location).find?
      (fun old => old.1 == other) = tree.entries.find? fun old => old.1 == other := by
    rw [List.find?_filter]
    congr 1
    funext old
    by_cases same : old.1 = other
    · simp [same, differ]
    · simp [same]
  simp only [ entry?, put, List.find?_cons, unlike, kept]

theorem file?_put_of_ne {other : Location} (differ : other ≠ location) :
    (tree.put location entry).file? other = tree.file? other := by
  rw [file?, file?, entry?_put_of_ne differ]

theorem sameFiles_put_directory (below : location ≠ []) (absent : tree.entry? location = none) :
    SameFiles tree (tree.put location .directory) := by
  intro other
  by_cases same : other = location
  · rw [same, file?, file?, entry?_put_self below, absent]
  · exact file?_put_of_ne same

theorem walk_put (free : tree.entry? location ≠ some .directory) :
    ∀ {parts : List String} {origin goal : Location}, tree.walk origin parts = .ok goal →
      (tree.put location entry).walk origin parts = .ok goal
  | [], _, _, reached => reached
  | piece :: rest, origin, goal, reached => by
      rw [walk, bind_eq_ok_iff] at reached ⊢
      obtain ⟨_, passes, reached⟩ := reached
      have isDirectory : tree.entry? origin = some .directory := by
        rw [demandDirectory] at passes
        split at passes
        · assumption
        · cases passes
        · cases passes
      have elsewhere : origin ≠ location := by
        rintro rfl
        exact free isDirectory
      refine ⟨(), ?_, ?_⟩
      · rw [demandDirectory, entry?_put_of_ne elsewhere, isDirectory]
      · split_ifs at reached ⊢
        · exact walk_put free reached
        · exact walk_put free reached
        · exact walk_put free reached

end Put

theorem walk_append (tree : FileTree) (front back : List String) (origin : Location) :
    tree.walk origin (front ++ back) = (do
      let middle ← tree.walk origin front
      tree.walk middle back) := by
  induction front generalizing origin with
  | nil => rfl
  | cons piece rest ih =>
      rw [List.cons_append, walk, walk]
      cases tree.demandDirectory origin with
      | error error => rfl
      | ok passes =>
          simp only [bind, Except.bind] at ih ⊢
          split_ifs
          · exact ih origin
          · exact ih origin.dropLast
          · rfl
          · exact ih (origin ++ [piece])

theorem newEntry_spec {tree : FileTree} {directory location : Location} {path : String}
    {trailing : Bool} (found : tree.newEntry directory path = .ok (some location, trailing)) :
    location ≠ [] ∧ (trailing = false → ∃ origin parts,
      start directory path = .ok (origin, parts) ∧ tree.walk origin parts = .ok location) := by
  rw [newEntry, bind_eq_ok_iff] at found
  obtain ⟨⟨origin, parts⟩, started, found⟩ := found
  dsimp only at found
  split at found
  · cases found
  next name last =>
    rw [bind_eq_ok_iff] at found
    obtain ⟨parent, reached, found⟩ := found
    rw [bind_eq_ok_iff] at found
    obtain ⟨_, inside, found⟩ := found
    split_ifs at found with dots long
    · cases found
    obtain ⟨same, slashes⟩ := Prod.mk.inj (Except.ok.inj found)
    obtain rfl := Option.some.inj same
    refine ⟨by simp, ?_⟩
    rintro rfl
    -- Nothing was dropped from the end, so the name is the last piece of the path.
    have whole : parts.rdropWhile (· == "") = parts :=
      (List.rdropWhile_prefix _ parts).eq_of_length_le (by simpa [List.rdropWhile] using slashes)
    change (parts.rdropWhile (· == "")).getLast? = some name at last
    change tree.walk origin (parts.rdropWhile (· == "")).dropLast = .ok parent at reached
    rw [whole] at last reached
    have filled : name ≠ "" := by
      rintro rfl
      obtain ⟨nonempty, ending⟩ := List.mem_getLast?_eq_getLast last
      exact List.rdropWhile_eq_self_iff.mp whole nonempty (by simp [← ending])
    have ends : parts = parts.dropLast ++ [name] :=
      (List.dropLast_append_getLast? name last).symm
    refine ⟨origin, parts, started, ?_⟩
    rw [ends, walk_append, reached]
    simp only [bind, Except.bind, walk, inside]
    rw [if_neg (by simp [filled, not_or.mp dots]), if_neg (not_or.mp dots).2, if_neg long]

theorem makeDirectory_sameFiles {tree after : FileTree} {directory : Location} {path : String}
    (made : tree.makeDirectory directory path = .ok after) : SameFiles tree after := by
  rw [makeDirectory, bind_eq_ok_iff] at made
  obtain ⟨found, located, made⟩ := made
  split at made
  next location trailing =>
    split_ifs at made with present
    obtain rfl := Except.ok.inj made
    rw [Option.not_isSome_iff_eq_none] at present
    exact sameFiles_put_directory (newEntry_spec located).1 present
  · cases made

theorem makeDirectories_sameFiles (directory : Location) (fuel : Nat) (path : String)
    (tree : FileTree) : SameFiles tree (makeDirectories directory fuel path tree).2 := by
  induction fuel generalizing path tree with
  | zero => exact SameFiles.refl tree
  | succ fuel ih =>
      -- Where a directory cannot be made, it is enough that it is known.
      have known : ∀ (error : FileError) (now : FileTree), SameFiles tree now →
          SameFiles tree (if now.isDirectory directory path then (.ok (), now)
            else (.error error, now) : Except FileError Unit × FileTree).2 := by
        intro error now same
        split_ifs <;> exact same
      rw [makeDirectories]
      split_ifs
      · exact SameFiles.refl tree
      split
      next after made => exact makeDirectory_sameFiles made
      next missing =>
        split
        · exact SameFiles.refl tree
        next parent isParent =>
          have above := ih parent tree
          split
          next error now stopped =>
            rw [stopped] at above
            exact above
          next now complete =>
            rw [complete] at above
            split
            next after made => exact above.trans (makeDirectory_sameFiles made)
            next error refused => exact known error now above
      next error other refused => exact known error tree (SameFiles.refl tree)

/-- A written file is what its path leads to, and no other file is touched. -/
theorem write_spec {tree after : FileTree} {directory : Location} {path text : String}
    (written : tree.write directory path text = .ok after) :
    ∃ location, after.resolve directory path = .ok (location, .file text.toUTF8) ∧
      ∀ other, other ≠ location → after.file? other = tree.file? other := by
  rw [write, bind_eq_ok_iff] at written
  obtain ⟨found, located, written⟩ := written
  split at written
  next location =>
    obtain ⟨below, leads⟩ := newEntry_spec located
    obtain ⟨origin, parts, started, reached⟩ := leads rfl
    split at written
    · cases written
    next free =>
      obtain rfl := Except.ok.inj written
      refine ⟨location, ?_, fun other differ => file?_put_of_ne differ⟩
      rw [resolve, started]
      simp only [bind, Except.bind]
      rw [walk_put free reached]
      simp only [entry?_put_self below]
      rfl
  · cases written

theorem write_isOk (tree : FileTree) (directory : Location) (path text other : String) :
    (tree.write directory path text).isOk = (tree.write directory path other).isOk := by
  rw [write, write]
  cases tree.newEntry directory path with
  | error error => rfl
  | ok found =>
      simp only [bind, Except.bind]
      split
      next location => cases tree.entry? location with
        | none => rfl
        | some entry => cases entry <;> rfl
      next => rfl

end PipelineAdvisor.FileTree
