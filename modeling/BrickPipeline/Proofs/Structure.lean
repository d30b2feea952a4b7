import BrickPipeline.Proofs.LintSound
import BrickPipeline.Proofs.Traversals

/-!
Sub-pipelines and deferred values in documents of the first two versions. The lint finds them in the
arguments of steps, at any depth, and leaves conditions unread.
-/
namespace BrickPipeline

variable {σ : Type}

namespace Expr

theorem itemsHaveStructure_eq_any (items : List Expr) :
    itemsHaveStructure items = items.any hasStructure := by
  induction items with
  | nil => rfl
  | cons item rest ih => rw [itemsHaveStructure, ih, List.any_cons]

theorem entriesHaveStructure_eq_any (entries : List (String × Expr)) :
    entriesHaveStructure entries = entries.any fun entry => hasStructure entry.2 := by
  induction entries with
  | nil => rfl
  | cons entry rest ih => rw [entriesHaveStructure, ih, List.any_cons]

end Expr

namespace Node

/-- Sub-pipelines and deferred values, which are left to the bricks. -/
def isStructural : Node → Bool
  | ofValue (.pipeline ..) | ofValue (.defer _) => true
  | _ => false

/-- Whether a sub-pipeline or a deferred value stands somewhere in the tree below a node. -/
def HasStructure (node : Node) : Prop :=
  ∃ site found, node.at? site = some found ∧ found.isStructural = true

theorem hasStructure_iff {node : Node} : node.HasStructure ↔
    node.isStructural = true ∨ ∃ turn part, (turn, part) ∈ node.parts ∧ part.HasStructure := by
  constructor
  · rintro ⟨site, found, hfound, hs⟩
    cases site with
    | nil =>
      cases hfound
      exact .inl hs
    | cons turn rest =>
      obtain ⟨part, hm, hpart⟩ := at?_cons.1 hfound
      exact .inr ⟨turn, part, hm, rest, found, hpart, hs⟩
  · rintro (hs | ⟨turn, part, hm, rest, found, hpart, hs⟩)
    · exact ⟨[], node, rfl, hs⟩
    · exact ⟨turn :: rest, found, at?_cons.2 ⟨part, hm, hpart⟩, hs⟩

/-- The search of the lint, at a node. -/
def searched : Node → Bool
  | ofStep step => Expr.entriesHaveStructure step.config
  | ofValue value => value.hasStructure

theorem searched_eq (node : Node) :
    node.searched = (node.isStructural || node.parts.any fun entry => entry.2.searched) := by
  have hzip {α : Type} (p : α → Bool) (xs : List α) :
      xs.any p = xs.zipIdx.any fun numbered => p numbered.1 := by
    conv_lhs => rw [← List.zipIdx_map_fst 0 xs, List.any_map]
    rfl
  cases node with
  | ofStep step =>
    simp only [searched, isStructural, parts, List.any_map, Function.comp_def,
      Expr.entriesHaveStructure_eq_any, Bool.false_or]
    rw [hzip]
  | ofValue value =>
    cases value with
    | array items =>
      simp only [searched, isStructural, parts, List.any_map, Function.comp_def,
        Expr.hasStructure, Expr.itemsHaveStructure_eq_any, Bool.false_or]
      rw [hzip]
    | object entries =>
      simp only [searched, isStructural, parts, List.any_map, Function.comp_def,
        Expr.hasStructure, Expr.entriesHaveStructure_eq_any, Bool.false_or]
      rw [hzip]
    | _ => rfl

theorem searched_iff (node : Node) : node.searched = true ↔ node.HasStructure := by
  induction node using induction_on with
  | h node ih =>
    rw [searched_eq, hasStructure_iff, Bool.or_eq_true, List.any_eq_true, Prod.exists]
    refine or_congr_right (exists_congr fun turn => exists_congr fun part => ?_)
    exact and_congr_right fun hm => ih turn part hm

theorem exists_ofValue_of_mem_parts {node part : Node} {turn : Turn}
    (hs : node.isStructural = false) (hm : (turn, part) ∈ node.parts) :
    ∃ value, part = ofValue value := by
  unfold parts at hm
  split at hm
  · obtain ⟨numbered, -, he⟩ := List.mem_map.1 hm
    exact ⟨_, (Prod.mk.inj he).2.symm⟩
  · cases hs
  · cases hs
  · obtain ⟨numbered, -, he⟩ := List.mem_map.1 hm
    exact ⟨_, (Prod.mk.inj he).2.symm⟩
  · obtain ⟨numbered, -, he⟩ := List.mem_map.1 hm
    exact ⟨_, (Prod.mk.inj he).2.symm⟩
  · cases hm

/-- There are no steps below a node without sub-pipelines and deferred values. -/
theorem occurrences_of_not_hasStructure {node : Node} (h : ¬ node.HasStructure) :
    node.occurrences = node.own.map ([], ·) := by
  induction node using induction_on with
  | h node ih =>
    obtain ⟨hs, hparts⟩ := not_or.1 (mt hasStructure_iff.2 h)
    rw [occurrences_eq, List.append_right_eq_self, List.flatMap_eq_nil_iff]
    rintro ⟨turn, part⟩ hm
    obtain ⟨value, rfl⟩ := exists_ofValue_of_mem_parts (Bool.eq_false_iff.2 hs) hm
    have hvalue : (ofValue value).occurrences = [] :=
      ih turn _ hm fun hinner => hparts ⟨turn, _, hm, hinner⟩
    exact List.map_eq_nil_iff.2 hvalue

end Node

namespace Pipeline

theorem walkStep_of_not_hasStructure (place : String) {step : Step}
    (h : ¬ (Node.ofStep step).HasStructure) : walkStep place step = [(place, step)] := by
  have hwalk := (Node.ofStep step).walk_eq_map place
  rw [Node.occurrences_of_not_hasStructure h] at hwalk
  simpa [Node.walk, Node.own] using hwalk

/-- Without sub-pipelines and deferred values in arguments the walk comes to the steps of the
pipeline itself. -/
theorem map_snd_placedSteps {steps : Pipeline}
    (h : ∀ step ∈ steps, ¬ (Node.ofStep step).HasStructure) :
    (placedSteps steps).map Prod.snd = steps := by
  rw [placedSteps, walk_eq_flatMap, List.map_flatMap]
  conv_rhs => rw [← List.zipIdx_map_fst 0 steps, List.map_eq_flatMap]
  refine List.flatMap_congr fun numbered hm => ?_
  have hstep := walkStep_of_not_hasStructure (stepPlace "pipeline" numbered.2)
    (h _ (List.fst_mem_of_mem_zipIdx hm))
  exact congrArg (List.map Prod.snd) hstep

end Pipeline

/-- Whether a step has a sub-pipeline or a deferred value in its condition. -/
def Step.HasStructuredCondition (step : Step) : Prop :=
  ∃ condition, step.condition = some condition ∧ (Node.ofValue condition).HasStructure

/-- Whether a step has a sub-pipeline or a deferred value in an argument or in its condition. -/
def Step.HasStructure (step : Step) : Prop :=
  (Node.ofStep step).HasStructure ∨ step.HasStructuredCondition

namespace Lint

/-- Whether a document is told that its version has no control flow. -/
def ReportsControlFlow (registry : Registry σ) (document : Document) : Prop :=
  ∃ diagnostic ∈ diagnose registry document, diagnostic.rule = "control_flow_requires_v3"

variable (registry : Registry σ) (document : Document)

theorem controlFlowRequiresV3_eq_nil_iff : controlFlowRequiresV3 document = [] ↔
    document.apiVersion = .v3 ∨ ∀ step ∈ document.pipeline, ¬ (Node.ofStep step).HasStructure := by
  have hversion : document.apiVersion.supportsControlFlow = true ↔ document.apiVersion = .v3 := by
    cases document.apiVersion <;> decide
  have hsearched (step : Step) : Expr.entriesHaveStructure step.config = true ↔
      (Node.ofStep step).HasStructure := Node.searched_iff (.ofStep step)
  rw [controlFlowRequiresV3]
  split
  · rename_i hv
    exact iff_of_true rfl (.inl (hversion.1 hv))
  · rename_i hv
    rw [or_iff_right (mt hversion.2 hv), List.filterMap_eq_nil_iff]
    conv_rhs => rw [← List.zipIdx_map_fst 0 document.pipeline, List.forall_mem_map]
    refine forall₂_congr fun numbered _ => ?_
    rw [← hsearched]
    simp

theorem reportsControlFlow_iff : ReportsControlFlow registry document ↔
    document.apiVersion ≠ .v3 ∧ ∃ step ∈ document.pipeline, (Node.ofStep step).HasStructure := by
  have hnil : ¬ ReportsControlFlow registry document ↔ controlFlowRequiresV3 document = [] := by
    rw [← diagnose_controlFlowRequiresV3 registry document, List.filter_eq_nil_iff]
    simp [ReportsControlFlow]
  rw [← not_iff_not, hnil, controlFlowRequiresV3_eq_nil_iff, not_and_or, not_ne_iff]
  simp only [not_exists, not_and]

variable {registry document} {diagnostics : List Diagnostic}

theorem not_reportsControlFlow_of_check (valid : check registry document = .ok diagnostics) :
    ¬ ReportsControlFlow registry document := by
  rintro ⟨diagnostic, hm, hrule⟩
  have hrule : diagnostic ∈ controlFlowRequiresV3 document := by
    rw [← diagnose_controlFlowRequiresV3 registry document]
    exact List.mem_filter.2 ⟨hm, decide_eq_true hrule⟩
  exact ne_error_of_check valid hm
    (foundBy_controlFlowRequiresV3 document diagnostic hrule).severity_eq

/-- The lint reports control flow in exactly those documents of the first two versions that have a
sub-pipeline or a deferred value in an argument of a step, at any depth. So it reports all control
flow where there is none in conditions; and a document of these versions that is accepted has it in
conditions only, and all its steps stand in the pipeline itself. -/
theorem reportsControlFlow_exact (registry : Registry σ) (document : Document) :
    (ReportsControlFlow registry document ↔
        document.apiVersion ≠ .v3 ∧ ∃ step ∈ document.pipeline, (Node.ofStep step).HasStructure) ∧
      ((∀ step ∈ document.pipeline, ¬ step.HasStructuredCondition) →
        (ReportsControlFlow registry document ↔
          document.apiVersion ≠ .v3 ∧ ∃ step ∈ document.pipeline, step.HasStructure)) ∧
      ∀ diagnostics, check registry document = .ok diagnostics → document.apiVersion ≠ .v3 →
        (Pipeline.placedSteps document.pipeline).map Prod.snd = document.pipeline ∧
          ∀ step ∈ document.pipeline, step.HasStructure ↔ step.HasStructuredCondition := by
  refine ⟨reportsControlFlow_iff registry document, fun h => ?_, fun diagnostics valid hv => ?_⟩
  · rw [reportsControlFlow_iff]
    refine and_congr_right fun _ => exists_congr fun step => and_congr_right fun hm => ?_
    exact (or_iff_left (h step hm)).symm
  · have hnone : ∀ step ∈ document.pipeline, ¬ (Node.ofStep step).HasStructure :=
      fun step hm hs => not_reportsControlFlow_of_check valid
        ((reportsControlFlow_iff registry document).2 ⟨hv, step, hm, hs⟩)
    exact ⟨Pipeline.map_snd_placedSteps hnone, fun step hm => or_iff_right (hnone step hm)⟩

end Lint

namespace Sample

/-- A step with a deferred value in an object in an array, and a plain condition. -/
def burying : Step :=
  ((Step.new (Brick.identity : Brick Unit).id).withArg "items"
    (.array [.literal .null, .object [("later", .defer (.var (some "@input")))]])).onlyIf
      (.var (some "@input"))

/-- A step with a sub-pipeline for a condition. -/
def guarded : Step := (Step.new (Brick.identity : Brick Unit).id).onlyIf (.ofSteps [])

/-- A legacy document of one step. -/
def legacy (step : Step) : Document := ⟨.v2, none, [step], [], none, .null⟩

end Sample

theorem Lint.reportsControlFlow_exact_sample :
    (∀ step ∈ (Sample.legacy Sample.burying).pipeline, ¬ step.HasStructuredCondition) ∧
      ReportsControlFlow Sample.host.registry (Sample.legacy Sample.burying) ∧
      check Sample.host.registry (Sample.legacy Sample.guarded) = .ok [] ∧
      (Pipeline.placedSteps [Sample.guarded]).map Prod.snd = [Sample.guarded] := by
  have hplain : ∀ step ∈ (Sample.legacy Sample.burying).pipeline,
      ¬ step.HasStructuredCondition := by
    refine List.forall_mem_singleton.2 ?_
    rintro ⟨condition, hc, hs⟩
    cases hc
    exact absurd ((Node.searched_iff _).2 hs) (by decide)
  have hburied : Sample.burying.HasStructure :=
    .inl ((Node.searched_iff (.ofStep Sample.burying)).1 rfl)
  have valid : check Sample.host.registry (Sample.legacy Sample.guarded) = .ok [] := rfl
  obtain ⟨-, hreports, -⟩ :=
    reportsControlFlow_exact Sample.host.registry (Sample.legacy Sample.burying)
  obtain ⟨-, -, haccepted⟩ :=
    reportsControlFlow_exact Sample.host.registry (Sample.legacy Sample.guarded)
  exact ⟨hplain, (hreports hplain).2 ⟨nofun, _, List.mem_singleton_self _, hburied⟩, valid,
    (haccepted [] valid nofun).1⟩

/-- A sub-pipeline in a condition of a legacy document goes unreported. -/
theorem Lint.exists_unreported_condition :
    ∃ document : Document, document.apiVersion = .v2 ∧
      (∃ step ∈ document.pipeline, step.HasStructure) ∧
      ¬ ReportsControlFlow Sample.host.registry document ∧
      check Sample.host.registry document = .ok [] := by
  have valid : check Sample.host.registry (Sample.legacy Sample.guarded) = .ok [] := rfl
  have hs : (Node.ofValue (.ofSteps [])).HasStructure := ⟨[], _, rfl, rfl⟩
  exact ⟨Sample.legacy Sample.guarded, rfl,
    ⟨Sample.guarded, List.mem_singleton_self _, .inr ⟨_, rfl, hs⟩⟩,
    not_reportsControlFlow_of_check valid, valid⟩

end BrickPipeline
