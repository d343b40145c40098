import PipelineAdvisor.Pipeline.Config
import PipelineAdvisor.Proofs.Json.Stretches

/-!
What a search in the text of a job finds. It sees the pieces of each step on their own; and among
the pieces of a step with an image are the stretches of every string in it, so also of the command
that the step runs.
-/

namespace PipelineAdvisor

open Text (SplitsAt PartsAt)
open Yaml (Node)

namespace Yaml.Node

theorem stretches_subset_pieces {text : String} : ∀ {node : Node} {image : Json},
    node.asString? = some text → node.image? = some image →
      Json.stretches text.toList ⊆ image.pieces
  | .string other, image, isText, imaged => by
      obtain rfl : other = text := Option.some.inj isText
      obtain rfl : Json.string other = image := Option.some.inj (by simpa [image?] using imaged)
      rw [Json.pieces]
      exact List.Subset.refl _
  | .tagged tag content, image, isText, imaged => by
      rw [image?] at imaged
      obtain ⟨inner, innerImaged, same⟩ := Option.map_eq_some_iff.mp imaged
      subst image
      have isInnerText : content.asString? = some text := by
        simpa [asString?, bare] using isText
      have inside := stretches_subset_pieces isInnerText innerImaged
      intro stretch known
      rw [Json.pieces]
      exact Json.mem_memberPieces List.mem_cons_self (inside known)
  | .null, _, isText, _ => by simp [asString?, bare] at isText
  | .bool _, _, isText, _ => by simp [asString?, bare] at isText
  | .number _, _, isText, _ => by simp [asString?, bare] at isText
  | .sequence _, _, isText, _ => by simp [asString?, bare] at isText
  | .mapping _, _, isText, _ => by simp [asString?, bare] at isText

theorem imageMembers?_mem {entries : List (Node × Node)} {members : List (String × Json)}
    (imaged : imageMembers? entries = some members) {entry : Node × Node}
    (known : entry ∈ entries) :
    ∃ name image, image? entry.2 = some image ∧ (name, image) ∈ members := by
  induction entries generalizing members with
  | nil => cases known
  | cons first rest ih =>
      obtain ⟨key, value⟩ := first
      simp only [imageMembers?, Option.bind_eq_bind, Option.bind_eq_some_iff,
        Option.pure_def, Option.some.injEq] at imaged
      obtain ⟨name, named, image, valueImaged, others, restImaged, same⟩ := imaged
      subst members
      rcases List.mem_cons.mp known with atFront | later
      · subst entry
        exact ⟨name, image, valueImaged, List.mem_cons_self⟩
      · obtain ⟨name, image, found, inOthers⟩ := ih restImaged later
        exact ⟨name, image, found, List.mem_cons_of_mem _ inOthers⟩

theorem get?_mapping_mem {entries : List (Node × Node)} {key : String} {value : Node}
    (found : (Node.mapping entries).get? key = some value) :
    ∃ entry ∈ entries, entry.2 = value := by
  obtain ⟨entry, first, same⟩ := Option.map_eq_some_iff.mp found
  exact ⟨entry, List.mem_of_find?_eq_some first, same⟩

end Yaml.Node

namespace StepKind

theorem ofRun_command {body : Node} {name : Option String} {command : String}
    (runs : ofRun body = .run name command) :
    body = .string command ∨ command = "" ∨
      ∃ entries value, body = .mapping entries ∧ body.get? "command" = some value ∧
        value.asString? = some command := by
  cases body with
  | string text =>
      obtain ⟨_, rfl⟩ := StepKind.run.inj runs
      exact Or.inl rfl
  | mapping entries =>
      obtain ⟨_, rfl⟩ := StepKind.run.inj runs
      refine Or.inr ?_
      cases given : ((Node.mapping entries).get? "command").bind Node.asString? with
      | none => exact Or.inl rfl
      | some text =>
          obtain ⟨value, found, isText⟩ := Option.bind_eq_some_iff.mp given
          exact Or.inr ⟨entries, value, rfl, found, isText⟩
  | _ =>
      obtain ⟨_, rfl⟩ := StepKind.run.inj runs
      exact Or.inr (Or.inl rfl)

theorem ofNode_run {node : Node} {name : Option String} {command : String}
    (runs : ofNode node = .run name command) :
    ∃ key body, node = .mapping [(key, body)] ∧ ofRun body = .run name command := by
  cases node with
  | string text =>
      simp only [ofNode, ofName] at runs
      split at runs <;> cases runs
  | mapping entries =>
      simp only [ofNode] at runs
      split at runs
      · cases runs
      split at runs
      next key body _ =>
        split at runs
        next =>
          simp only [ofEntry] at runs
          split_ifs at runs
          exact ⟨key, body, rfl, runs⟩
        next => cases runs
      next => cases runs
  | _ => cases runs

end StepKind

namespace Step

/-- The texts that a search in the text of a step sees, each on its own. -/
def pieces (step : Step) : List (List Char) :=
  match step.node.image? with
  | some image => image.pieces
  | none => [step.serialized]

theorem serialized_find {α : Type} {find : List Char → Option α}
    (parts : PartsAt Json.IsMark find) (step : Step) :
    find step.serialized = step.pieces.findSome? find := by
  rw [pieces]
  cases imaged : step.node.image? with
  | none => rw [List.findSome?_singleton]
  | some image =>
      have written : step.serialized = image.compact := by rw [serialized, imaged]
      rw [written, Json.compact_find parts]

theorem serialized_test {test : List Char → Bool} (splits : SplitsAt Json.IsMark test)
    (step : Step) : test step.serialized = step.pieces.any test :=
  Text.any_eq_of_findSome? (serialized_find splits.partsAt step)

theorem stretches_command_subset_pieces {step : Step} {name : Option String} {command : String}
    (runs : step.kind = .run name command) (filled : command ≠ "")
    (imaged : step.node.image?.isSome = true) :
    Json.stretches command.toList ⊆ step.pieces := by
  obtain ⟨image, imaged⟩ := Option.isSome_iff_exists.mp imaged
  have seen : step.pieces = image.pieces := by rw [pieces, imaged]
  obtain ⟨key, body, shape, bodyRuns⟩ := StepKind.ofNode_run runs
  rw [shape, Node.image?] at imaged
  obtain ⟨members, membersImaged, same⟩ := Option.map_eq_some_iff.mp imaged
  subst image
  obtain ⟨_, inner, innerImaged, inMembers⟩ :=
    Node.imageMembers?_mem membersImaged (List.mem_singleton.mpr rfl)
  have innerSeen : inner.pieces ⊆ step.pieces := by
    intro piece known
    rw [seen, Json.pieces]
    exact Json.mem_memberPieces inMembers known
  rcases StepKind.ofRun_command bodyRuns with rfl | missing | ⟨entries, value, rfl, found, isText⟩
  · exact List.Subset.trans (Node.stretches_subset_pieces rfl innerImaged) innerSeen
  · exact absurd missing filled
  · rw [Node.image?] at innerImaged
    obtain ⟨options, optionsImaged, same⟩ := Option.map_eq_some_iff.mp innerImaged
    subst inner
    obtain ⟨entry, known, rfl⟩ := Node.get?_mapping_mem found
    obtain ⟨_, text, textImaged, inOptions⟩ := Node.imageMembers?_mem optionsImaged known
    intro stretch inside
    apply innerSeen
    rw [Json.pieces]
    exact Json.mem_memberPieces inOptions (Node.stretches_subset_pieces isText textImaged inside)

end Step

namespace Job

theorem commaSeparated_find {α : Type} {find : List Char → Option α}
    (parts : PartsAt Json.IsMark find) (texts : List (List Char)) :
    find (commaSeparated texts) = texts.findSome? find := by
  induction texts with
  | nil => rw [commaSeparated, parts.empty, List.findSome?_nil]
  | cons text rest ih =>
      cases rest with
      | nil => rw [commaSeparated, List.findSome?_singleton]
      | cons next others =>
          rw [commaSeparated, parts.split _ (by decide), ih, ← Text.findSome?_cons_or]

/-- The text of a job is searched piece by piece. -/
theorem stepsText_find {α : Type} {find : List Char → Option α}
    (parts : PartsAt Json.IsMark find) (job : Job) :
    find job.stepsText = (job.steps.flatMap Step.pieces).findSome? find := by
  rw [stepsText, List.cons_append, parts.cons (by decide), parts.concat (by decide),
    commaSeparated_find parts]
  induction job.steps with
  | nil => rfl
  | cons step rest ih =>
      rw [List.map_cons, Text.findSome?_cons_or, ih, Step.serialized_find parts,
        List.flatMap_cons, List.findSome?_append]

theorem stepsText_test {test : List Char → Bool} (splits : SplitsAt Json.IsMark test) (job : Job) :
    test job.stepsText = job.steps.any fun step => step.pieces.any test := by
  rw [Text.any_eq_of_findSome? (stepsText_find splits.partsAt job), List.any_flatMap]

end Job

end PipelineAdvisor
