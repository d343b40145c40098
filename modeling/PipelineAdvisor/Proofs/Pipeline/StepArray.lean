import Mathlib.Data.List.Forall2
import PipelineAdvisor.Pipeline.Config
import PipelineAdvisor.Proofs.Yaml.Images

/-!
The text of a job is one array. Whatever the steps hold, quotation marks, brackets and control
characters included, the text reads back as the images of the steps, one item for each.
-/

namespace PipelineAdvisor

open Yaml (Node)

theorem Step.serialized_of_shows {step : Step} {image : Json} (imaged : step.node.image? = some image) :
    step.serialized = image.compact := by
  rw [serialized, imaged]

theorem Json.compactItems_eq (items : List Json) :
    compactItems items = Job.commaSeparated (items.map compact) ++ [']'] := by
  induction items with
  | nil => rw [compactItems, List.map_nil, Job.commaSeparated, List.nil_append]
  | cons item rest ih =>
      cases rest with
      | nil => rw [compactItems, List.map_cons, List.map_nil, Job.commaSeparated]
      | cons next others =>
          rw [compactItems, ih]
          simp [Job.commaSeparated]

namespace Job

theorem exists_images {steps : List Step} (plain : ∀ step ∈ steps, step.node.hasPlainKeys = true)
    (words : ∀ step ∈ steps, step.node.hasWords = true) :
    ∃ images, List.Forall₂ (fun step image => step.node.Shows image) steps images ∧
      steps.map Step.serialized = images.map Json.compact ∧ ∀ image ∈ images, Json.Exact image := by
  induction steps with
  | nil => exact ⟨[], .nil, rfl, List.forall_mem_nil _⟩
  | cons step rest ih =>
      obtain ⟨images, shown, texts, exact⟩ :=
        ih (fun other known => plain other (List.mem_cons_of_mem step known))
          fun other known => words other (List.mem_cons_of_mem step known)
      obtain ⟨image, imaged, _⟩ := Yaml.Node.image?_of_plainKeys (plain step List.mem_cons_self)
      have first := Yaml.Node.shows_of_image? imaged
      refine ⟨image :: images, .cons first shown, ?_, ?_⟩
      · rw [List.map_cons, List.map_cons, texts, Step.serialized_of_shows imaged]
      · exact List.forall_mem_cons.mpr ⟨first.exact (words step List.mem_cons_self), exact⟩

theorem stepsText_eq_compact {job : Job} {images : List Json}
    (texts : job.steps.map Step.serialized = images.map Json.compact) :
    job.stepsText = (Json.array images).compact := by
  rw [stepsText, texts, Json.compact, Json.compactItems_eq, List.cons_append]

/-- If the keys of all mappings in the steps of a job are strings, finite numbers or truth values, then
the text of the job is that of one array, and it reads back as this array: its items are the images of
the steps, one for each and in their order. Keys that print alike are no exception. -/
theorem stepsText_reads_back {job : Job} (plain : ∀ step ∈ job.steps, step.node.hasPlainKeys = true)
    (words : ∀ step ∈ job.steps, step.node.hasWords = true) :
    ∃ images, List.Forall₂ (fun step image => step.node.Shows image) job.steps images ∧
      job.stepsText = (Json.array images).compact ∧
      Json.read? job.stepsText = some (.array images) := by
  obtain ⟨images, shown, texts, exact⟩ := exists_images plain words
  have written := stepsText_eq_compact texts
  refine ⟨images, shown, written, ?_⟩
  rw [written]
  exact (Json.Exact.array exact).read?_compact

def unusualSteps : List Step :=
  [⟨.mapping [(.string "run", .string "echo \"a\",\\\"b\"]\n\x1bé")]⟩,
    ⟨.tagged "when" (.mapping [(.number (.integer (-7)), .number (.float (Binary64.nan true))),
      (.bool false, .sequence [.null, .number (.integer (2 ^ 63))])])⟩,
    ⟨.string "checkout"⟩]

theorem stepsText_reads_back_unusualSteps : ∃ images, images.length = 3 ∧
    List.Forall₂ (fun step image => step.node.Shows image) unusualSteps images ∧
    Json.read? { name := "build", steps := unusualSteps : Job }.stepsText = some (.array images) := by
  have plain : ∀ step ∈ unusualSteps, step.node.hasPlainKeys = true := by decide +kernel
  have words : ∀ step ∈ unusualSteps, step.node.hasWords = true := by decide +kernel
  obtain ⟨images, shown, _, reads⟩ :=
    @stepsText_reads_back { name := "build", steps := unusualSteps } plain words
  exact ⟨images, shown.length_eq.symm, shown, reads⟩

end Job

end PipelineAdvisor
