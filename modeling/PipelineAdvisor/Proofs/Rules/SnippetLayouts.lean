import PipelineAdvisor.Proofs.Rules.Emission
import PipelineAdvisor.Proofs.Yaml.LayoutNodes

/-!
Examples as documents. Every example is laid out in block style with names put in as they are, so it
is read back as the document it shows whenever these names can stand there plain.
-/

namespace PipelineAdvisor

open Yaml

namespace Snippet

/-- A text shows a layout, perhaps with a comment behind it, and all of it can be read. -/
structure LaidOut (text : String) (layout : Layout) : Prop where
  shape : ∃ tail, Closes tail ∧ (∀ c ∈ tail, isAllowed c = true) ∧
    text.toList = layout.text 0 ++ tail
  fits : layout.fits 0 = true
  ends : layout.endsLiteral = false
  levels : layout.node.depth ≤ 128

theorem LaidOut.readNode {text : String} {layout : Layout} (laid : LaidOut text layout) :
    readNode text = .ok layout.node := by
  obtain ⟨tail, closes, allowed, text_eq⟩ := laid.shape
  rw [← String.ofList_toList (s := text), text_eq]
  exact Layout.readNode_text laid.fits laid.ends laid.levels closes allowed

theorem shape_of_text {text : String} {layout : Layout} (text_eq : text.toList = layout.text 0) :
    ∃ tail, Closes tail ∧ (∀ c ∈ tail, isAllowed c = true) ∧ text.toList = layout.text 0 ++ tail :=
  ⟨[], .nothing, List.forall_mem_nil _, by rw [text_eq, List.append_nil]⟩

theorem closes_comment (column : Nat) {text : List Char}
    (shown : text.all (fun c => isAllowed c && !isBreak c) = true) :
    Closes ('\n' :: (Scalar.spaces column ++ '#' :: text)) ∧
      ∀ c ∈ '\n' :: (Scalar.spaces column ++ '#' :: text), isAllowed c = true := by
  simp only [List.all_eq_true, Bool.and_eq_true, Bool.not_eq_true'] at shown
  refine ⟨.comment column fun c known => (shown c known).2, ?_⟩
  simp only [List.forall_mem_cons, List.forall_mem_append]
  exact ⟨by decide, Layout.allowed_spaces column, by decide, fun c known => (shown c known).1⟩

/-! Sections with one name. -/

def sectionLayout (header name : String) (content : Layout) : Layout :=
  .mapping header (.mapping name content []) []

section Section

variable {header name text : String} {content : Layout}

theorem ofLines_section {opening nameLine : String} {lines : List String} {tail : List Char}
    (opening_eq : opening = header ++ ":") (nameLine_eq : nameLine = "  " ++ name ++ ":")
    (filled : lines ≠ []) (block : content.isScalar = false)
    (lines_eq : (ofLines lines).toList = Scalar.spaces 4 ++ content.text 4 ++ tail) :
    (ofLines (opening :: nameLine :: lines)).toList =
      (sectionLayout header name content).text 0 ++ tail := by
  obtain ⟨line, lines, rfl⟩ := List.exists_cons_of_ne_nil filled
  have inner : (Layout.mapping name content []).isScalar = false := rfl
  have joined : ofLines (opening :: nameLine :: line :: lines) =
      opening ++ "\n" ++ (nameLine ++ "\n" ++ ofLines (line :: lines)) := by
    simp only [ofLines, String.intercalate_cons_cons]
  rw [joined, opening_eq, nameLine_eq]
  simp only [String.toList_append, lines_eq]
  simp [sectionLayout, Layout.text, Layout.lead, Layout.entriesText, Scalar.spaces, inner, block]

theorem laidOut_section (known : header ∈ ["jobs", "workflows"]) (stands : standsAsKey name = true)
    (fits : content.fits 4 = true) (ends : content.endsLiteral = false)
    (levels : content.node.depth ≤ 8)
    (shape : ∃ tail, Closes tail ∧ (∀ c ∈ tail, isAllowed c = true) ∧
      text.toList = (sectionLayout header name content).text 0 ++ tail) :
    LaidOut text (sectionLayout header name content) where
  shape := shape
  fits := by
    have headers : ∀ header ∈ ["jobs", "workflows"],
        standsAsKey header = true ∧ Layout.standsAt 0 header = true := by decide
    exact Layout.fits_single (headers header known).1 (headers header known).2
      (Layout.fits_single stands rfl fits)
  ends := ends
  levels := by
    simp only [sectionLayout, Layout.depth_mapping, Layout.depthEntries_nil]
    omega

end Section

def sizeLayout (tier : String) : Layout :=
  .mapping "resource_class" (.plain tier) []

theorem laidOut_resourceClass {job tier : String} (stands : standsAsKey job = true)
    (known : tier ∈ ["small", "medium"]) :
    LaidOut (resourceClass job tier) (sectionLayout "jobs" job (sizeLayout tier)) := by
  have content : ∀ tier ∈ ["small", "medium"], (sizeLayout tier).fits 4 = true := by decide
  have lines : ∀ tier ∈ ["small", "medium"], (ofLines ["    resource_class: " ++ tier]).toList =
      Scalar.spaces 4 ++ (sizeLayout tier).text 4 ++ [] := by decide
  refine laidOut_section (by simp) stands (content tier known) rfl ?_
    ⟨[], .nothing, List.forall_mem_nil _,
      ofLines_section rfl rfl (List.cons_ne_nil _ _) rfl (lines tier known)⟩
  simp [sizeLayout]

def splittingLayout : Layout :=
  .mapping "parallelism" (.plain "4") [("steps", .sequence (.plain "checkout") [
    .mapping "run" (.literal [
      "TESTS=$(circleci tests glob \"**/*.test.*\" | circleci tests split --split-by=timings)",
      "run-tests $TESTS"]) [],
    .mapping "store_test_results" (.mapping "path" (.plain "test-results") []) []])]

theorem splittingLayout_lines : (ofLines [
    "    parallelism: 4",
    "    steps:",
    "      - checkout",
    "      - run: |",
    "          TESTS=$(circleci tests glob \"**/*.test.*\" | " ++
      "circleci tests split --split-by=timings)",
    "          run-tests $TESTS",
    "      - store_test_results:",
    "          path: test-results"]).toList = Scalar.spaces 4 ++ splittingLayout.text 4 ++ [] := by
  simp only [ofLines, String.intercalate_cons_cons, String.intercalate_singleton, String.toList_append]
  decide +kernel

theorem laidOut_testSplitting {job : String} (stands : standsAsKey job = true) :
    LaidOut (testSplitting job) (sectionLayout "jobs" job splittingLayout) :=
  laidOut_section (List.mem_cons_self) stands (by decide) rfl (by simp [splittingLayout])
    ⟨[], .nothing, List.forall_mem_nil _,
      ofLines_section rfl rfl (List.cons_ne_nil _ _) rfl splittingLayout_lines⟩

def gateLayout (before : String) : Layout :=
  .mapping "jobs" (.sequence
    (.mapping "hold-for-approval" (.mapping "type" (.plain "approval") []) [])
    [.mapping before (.mapping "requires" (.sequence (.plain "hold-for-approval") []) []) []]) []

theorem gateLayout_lines (before : String) : (ofLines [
    "    jobs:",
    "      - hold-for-approval:",
    "          type: approval",
    "      - " ++ before ++ ":",
    "          requires:",
    "            - hold-for-approval"]).toList =
      Scalar.spaces 4 ++ (gateLayout before).text 4 ++ [] := by
  simp [ofLines, gateLayout, Layout.text, Layout.lead, Layout.entriesText, Layout.itemsText,
    Layout.isScalar, Scalar.spaces]

theorem standsAsKey_jobs : standsAsKey "jobs" = true := by decide

theorem laidOut_approvalGate {workflow before : String} (stands : standsAsKey workflow = true)
    (standsBefore : standsAsKey before = true) :
    LaidOut (approvalGate workflow before)
      (sectionLayout "workflows" workflow (gateLayout before)) := by
  have hold : (Layout.mapping "hold-for-approval" (.mapping "type" (.plain "approval") []) []).fits 8 =
      true := by decide
  have requires : (Layout.mapping "requires" (.sequence (.plain "hold-for-approval") []) []).fits 10 =
      true := by decide
  have fits : (gateLayout before).fits 4 = true :=
    Layout.fits_single standsAsKey_jobs rfl (Layout.fits_sequence hold
      (List.forall_mem_singleton.mpr (Layout.fits_single standsBefore rfl requires)))
  refine laidOut_section (by simp) stands fits rfl ?_
    ⟨[], .nothing, List.forall_mem_nil _,
      ofLines_section rfl rfl (List.cons_ne_nil _ _) rfl (gateLayout_lines before)⟩
  simp [gateLayout]

def fanOutLayout (first : String) (rest : List String) : Layout :=
  .mapping "jobs" (.sequence (.plain first) (rest.map .plain)) []

theorem itemsText_plain (column : Nat) (items : List String) :
    Layout.itemsText column (items.map .plain) =
      items.flatMap fun item => '\n' :: (Scalar.spaces column ++ '-' :: ' ' :: item.toList) := by
  induction items with
  | nil => rfl
  | cons item items ih => simp [Layout.itemsText, Layout.text, ih]

theorem itemsEndLiteral_plain : (items : List String) →
    Layout.itemsEndLiteral false (items.map .plain) = false
  | [] => rfl
  | _ :: items => itemsEndLiteral_plain items

theorem toList_intercalate_cons (line : String) (lines : List String) :
    (String.intercalate "\n" (line :: lines)).toList =
      line.toList ++ lines.flatMap fun other => '\n' :: other.toList := by
  induction lines generalizing line with
  | nil => simp
  | cons other lines ih =>
      rw [String.intercalate_cons_cons, String.toList_append, ih]
      simp

theorem fanOutLayout_lines (first : String) (rest : List String) :
    (ofLines ("    jobs:" :: (first :: rest).map ("      - " ++ ·) ++
      ["      # jobs without `requires` start together"])).toList =
      Scalar.spaces 4 ++ (fanOutLayout first rest).text 4 ++
        '\n' :: (Scalar.spaces 6 ++ '#' :: " jobs without `requires` start together".toList) := by
  rw [ofLines, List.cons_append, toList_intercalate_cons]
  simp [fanOutLayout, Layout.text, Layout.lead, Layout.entriesText, itemsText_plain, Layout.isScalar,
    Scalar.spaces, List.flatMap_map]

theorem depthItems_plain (items : List String) :
    Node.depthItems (Layout.itemNodes (items.map .plain)) = 0 := by
  induction items with
  | nil => rfl
  | cons item items ih => simp [ih]

theorem laidOut_fanOut {workflow first : String} {rest : List String}
    (stands : standsAsKey workflow = true) (items : ∀ item ∈ first :: rest, standsAsValue item = true) :
    LaidOut (fanOut workflow (first :: rest))
      (sectionLayout "workflows" workflow (fanOutLayout first rest)) := by
  obtain ⟨here, later⟩ := List.forall_mem_cons.mp items
  have fits : (fanOutLayout first rest).fits 4 = true :=
    Layout.fits_single standsAsKey_jobs rfl
      (Layout.fits_sequence (Layout.fits_plain here rfl)
        (List.forall_mem_map.mpr fun item known => Layout.fits_plain (later item known) rfl))
  refine laidOut_section (by simp) stands fits ?_ ?_
    ⟨_, (closes_comment 6 rfl).1, (closes_comment 6 rfl).2,
      ofLines_section rfl rfl (List.cons_ne_nil _ _) rfl (fanOutLayout_lines first rest)⟩
  · exact itemsEndLiteral_plain rest
  · simp [fanOutLayout, depthItems_plain]

def contextLayout (job : String) : Layout :=
  .mapping "jobs" (.sequence
    (.mapping job (.mapping "context" (.plain "production-secrets") []) []) []) []

theorem contextLayout_lines (job : String) : (ofLines [
    "    jobs:",
    "      - " ++ job ++ ":",
    "          context: production-secrets",
    "# then reference the value as $API_TOKEN inside the job"]).toList =
      Scalar.spaces 4 ++ (contextLayout job).text 4 ++ '\n' :: (Scalar.spaces 0 ++
        '#' :: " then reference the value as $API_TOKEN inside the job".toList) := by
  simp [ofLines, contextLayout, Layout.text, Layout.lead, Layout.entriesText, Layout.itemsText,
    Layout.isScalar, Scalar.spaces]

theorem laidOut_secretFromContext {job : String} (stands : standsAsKey job = true) :
    LaidOut (secretFromContext job) (sectionLayout "workflows" "main" (contextLayout job)) := by
  have context : (Layout.mapping "context" (.plain "production-secrets") []).fits 10 = true := by
    decide
  have fits : (contextLayout job).fits 4 = true :=
    Layout.fits_single standsAsKey_jobs rfl
      (Layout.fits_sequence (Layout.fits_single stands rfl context) (List.forall_mem_nil _))
  refine laidOut_section (by simp) (by decide) fits rfl ?_
    ⟨_, (closes_comment 0 rfl).1, (closes_comment 0 rfl).2,
      ofLines_section rfl rfl (List.cons_ne_nil _ _) rfl (contextLayout_lines job)⟩
  simp [contextLayout]

/-! Examples without names of jobs or workflows. -/

def cacheLayout (ecosystem : Ecosystem) : Layout :=
  .mapping "steps" (.sequence (.plain "checkout") [
    .mapping "restore_cache" (.mapping "keys" (.sequence (.plain (checksumKey ecosystem))
      [.plain (ecosystem.cachePrefix ++ "-")]) []) [],
    .mapping "run" (.plain ecosystem.installCommand) [],
    .mapping "save_cache" (.mapping "key" (.plain (checksumKey ecosystem))
      [("paths", .sequence (.plain ecosystem.dependencyPath) [])]) []]) []

def checksumLayout (ecosystem : Ecosystem) : Layout :=
  .sequence (.mapping "restore_cache" (.mapping "keys" (.sequence (.plain (checksumKey ecosystem))
    [.plain (ecosystem.cachePrefix ++ "-")]) []) []) []

def layerLayout : Layout :=
  .sequence (.mapping "setup_remote_docker" (.mapping "docker_layer_caching" (.plain "true") []) [])
    [.mapping "run" (.plain "docker build -t app .") []]

def orbLayout (name reference : String) : Layout :=
  .mapping "orbs" (.mapping name (.plain reference) []) []

theorem standsAsValue_checksumKey (ecosystem : Ecosystem) :
    standsAsValue (checksumKey ecosystem) = true := by
  cases ecosystem <;> decide

theorem keysLayout_fits (ecosystem : Ecosystem) (column : Nat) :
    (Layout.mapping "keys" (.sequence (.plain (checksumKey ecosystem))
      [.plain (ecosystem.cachePrefix ++ "-")]) []).fits (column + 1) = true := by
  have fallback : standsAsValue (ecosystem.cachePrefix ++ "-") = true := by
    cases ecosystem <;> decide
  exact Layout.fits_single (by decide) rfl (Layout.fits_sequence
    (Layout.fits_plain (standsAsValue_checksumKey ecosystem) rfl)
    (List.forall_mem_singleton.mpr (Layout.fits_plain fallback rfl)))

theorem saveLayout_fits (ecosystem : Ecosystem) :
    (Layout.mapping "key" (.plain (checksumKey ecosystem))
      [("paths", .sequence (.plain ecosystem.dependencyPath) [])]).fits 6 = true := by
  have path : standsAsValue ecosystem.dependencyPath = true := by
    cases ecosystem <;> decide
  have keys : standsAsKey "key" = true ∧ standsAsKey "paths" = true ∧
      (Layout.scalarNode "key").same (Layout.scalarNode "paths") = false := by decide
  simp [Layout.fits, Layout.entriesFit, Layout.itemsFit, Layout.standsAt, keys, path,
    standsAsValue_checksumKey]

theorem laidOut_dependencyCache (ecosystem : Ecosystem) :
    LaidOut (dependencyCache ecosystem) (cacheLayout ecosystem) where
  shape := shape_of_text (by
    simp [dependencyCache, ofLines, cacheLayout, Layout.text, Layout.lead, Layout.entriesText,
      Layout.itemsText, Layout.isScalar, Scalar.spaces])
  fits := by
    have install : standsAsValue ecosystem.installCommand = true := by
      cases ecosystem <;> decide
    have keys : standsAsKey "steps" = true ∧ standsAsKey "run" = true ∧
        standsAsKey "restore_cache" = true ∧ standsAsKey "save_cache" = true := by decide
    refine Layout.fits_single keys.1 (by decide) (Layout.fits_sequence (by decide) ?_)
    simp only [List.forall_mem_cons]
    refine ⟨Layout.fits_single keys.2.2.1 rfl (keysLayout_fits ecosystem _),
      Layout.fits_single keys.2.1 rfl (Layout.fits_plain install rfl),
      Layout.fits_single keys.2.2.2 rfl (saveLayout_fits ecosystem), List.forall_mem_nil _⟩
  ends := rfl
  levels := by simp [cacheLayout]

theorem laidOut_checksumCacheKeys (ecosystem : Ecosystem) :
    LaidOut (checksumCacheKeys ecosystem) (checksumLayout ecosystem) where
  shape := shape_of_text (by
    simp [checksumCacheKeys, ofLines, checksumLayout, Layout.text, Layout.lead, Layout.entriesText,
      Layout.itemsText, Layout.isScalar, Scalar.spaces])
  fits := Layout.fits_sequence (Layout.fits_single (by decide) rfl
    (keysLayout_fits ecosystem _)) (List.forall_mem_nil _)
  ends := rfl
  levels := by simp [checksumLayout]

theorem laidOut_layerCaching : LaidOut layerCaching layerLayout where
  shape := shape_of_text (by decide)
  fits := by decide
  ends := rfl
  levels := by simp [layerLayout]

theorem laidOut_orbUsage {pattern : OrbReuse.Pattern} (known : pattern ∈ OrbReuse.patterns) :
    LaidOut (orbUsage pattern.slug pattern.reference) (orbLayout pattern.slug pattern.reference) where
  shape := shape_of_text (by
    simp [orbUsage, ofLines, orbLayout, Layout.text, Layout.lead, Layout.entriesText, Layout.isScalar,
      Scalar.spaces])
  fits := by
    have each : ∀ pattern ∈ OrbReuse.patterns,
        (orbLayout pattern.slug pattern.reference).fits 0 = true := by decide
    exact each pattern known
  ends := rfl
  levels := by simp [orbLayout]

end Snippet

end PipelineAdvisor
