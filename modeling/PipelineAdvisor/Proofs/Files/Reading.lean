import PipelineAdvisor.Files.Tree

/-!
Actions on files, run on a tree. Those that only read leave the tree as it is, and so does whatever is
composed of them.
-/

namespace PipelineAdvisor

namespace FileAccess

def Reads {α : Type} (action : StateM FileTree α) : Prop :=
  ∀ tree, (action.run tree).2 = tree

variable {α β : Type}

theorem run_bind (action : StateM FileTree α) (next : α → StateM FileTree β) (tree : FileTree) :
    (action >>= next).run tree = (next (action.run tree).1).run (action.run tree).2 :=
  rfl

namespace Reads

theorem pure (value : α) : Reads (pure value) :=
  fun _ => rfl

theorem bind {action : StateM FileTree α} {next : α → StateM FileTree β} (first : Reads action)
    (rest : ∀ value, Reads (next value)) : Reads (action >>= next) := by
  intro tree
  rw [run_bind, first tree]
  exact rest _ tree

end Reads

variable (directory : Location)

theorem readText_run (path : String) (tree : FileTree) :
    ((ofTree directory).readText path).run tree = (tree.readText directory path, tree) :=
  rfl

theorem reads_isFile (path : String) : Reads ((ofTree directory).isFile path) :=
  fun _ => rfl

theorem reads_readText (path : String) : Reads ((ofTree directory).readText path) :=
  fun _ => rfl

theorem makeDirectories_run (path : String) (tree : FileTree) :
    ((ofTree directory).makeDirectories path).run tree =
      FileTree.makeDirectories directory (path.length + 1) path tree :=
  rfl

theorem write_run (path text : String) (tree : FileTree) :
    ((ofTree directory).write path text).run tree =
      match tree.write directory path text with
      | .ok after => (.ok (), after)
      | .error error => (.error error, tree) := by
  have unfolded : ((ofTree directory).write path text).run tree =
      (match tree.write directory path text with
      | .ok after => do
        set after
        return .ok ()
      | .error error => return .error error : StateM FileTree (Except FileError Unit)).run tree := rfl
  rw [unfolded]
  cases tree.write directory path text <;> rfl

end FileAccess

end PipelineAdvisor
