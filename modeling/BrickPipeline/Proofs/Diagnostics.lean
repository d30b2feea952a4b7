import BrickPipeline.Document.Lint

/-!
What diagnostics say. All but those about empty pipelines are errors, found by a rule at a
dependency or at a step that the walk comes to. As every rule names itself, the diagnostics that bear
the name of a rule are those that come from it.
-/
namespace BrickPipeline

variable {σ : Type}

/-- The walk comes to the place of every step of a pipeline. -/
theorem Pipeline.stepPlace_mem_walk {scope : String} {start index : Nat} {steps : Pipeline}
    {step : Step} (h : (step, index) ∈ steps.zipIdx start) :
    stepPlace scope index ∈ (walk scope start steps).map Prod.fst := by
  induction steps generalizing start with
  | nil => cases h
  | cons first rest ih =>
    rw [walk, List.map_append, List.mem_append]
    rcases List.mem_cons.1 (List.zipIdx_cons ▸ h) with he | hrest
    · cases he
      cases step
      exact .inl List.mem_cons_self
    · exact .inr (ih hrest)

namespace Lint

/-- Whether a path is the place of a dependency, or of a step that the walk comes to. -/
def IsPlace (document : Document) (path : String) : Prop :=
  (∃ index, path = dependencyPlace index) ∨
    path ∈ (Pipeline.placedSteps document.pipeline).map Prod.fst

/-- Whether a diagnostic is an error that a rule finds at some place of a document. -/
def FoundBy (document : Document) (rule : String) (diagnostic : Diagnostic) : Prop :=
  ∃ message path fix, diagnostic = errorAt rule message path fix ∧ IsPlace document path

namespace FoundBy

variable {document : Document} {rule path : String} {diagnostic : Diagnostic}
  (found : FoundBy document rule diagnostic)

include found

theorem rule_eq : diagnostic.rule = rule := by
  obtain ⟨message, path, fix, rfl, -⟩ := found
  rfl

theorem severity_eq : diagnostic.severity = .error := by
  obtain ⟨message, path, fix, rfl, -⟩ := found
  rfl

theorem isPlace (h : diagnostic.path = some path) : IsPlace document path := by
  obtain ⟨message, place, fix, rfl, hplace⟩ := found
  cases h
  exact hplace

end FoundBy

theorem foundBy_reservedAt {document : Document} {outputKey path : String}
    {diagnostic : Diagnostic} (h : reservedAt outputKey path = some diagnostic)
    (hplace : IsPlace document path) : FoundBy document "reserved_output_key" diagnostic := by
  unfold reservedAt at h
  split at h <;> cases h
  exact ⟨_, _, _, rfl, hplace⟩

theorem isPlace_of_mem_placedSteps {document : Document} {path : String} {step : Step}
    (h : (path, step) ∈ Pipeline.placedSteps document.pipeline) : IsPlace document path :=
  .inr (List.mem_map.2 ⟨_, h, rfl⟩)

variable (registry : Registry σ) (document : Document)

theorem foundBy_unknownBrick :
    ∀ diagnostic ∈ unknownBrick registry document,
      FoundBy document "unknown_brick" diagnostic := by
  intro diagnostic hm
  obtain ⟨⟨path, step⟩, hplaced, h⟩ := List.mem_filterMap.1 hm
  dsimp only at h
  split at h <;> cases h
  exact ⟨_, _, _, rfl, isPlace_of_mem_placedSteps hplaced⟩

theorem foundBy_invalidOutputKey :
    ∀ diagnostic ∈ invalidOutputKey document,
      FoundBy document "invalid_output_key" diagnostic := by
  intro diagnostic hm
  obtain ⟨⟨path, step⟩, hplaced, h⟩ := List.mem_filterMap.1 hm
  obtain ⟨outputKey, -, h⟩ := Option.bind_eq_some_iff.1 h
  split at h <;> cases h
  exact ⟨_, _, _, rfl, isPlace_of_mem_placedSteps hplaced⟩

theorem foundBy_reservedOutputKey :
    ∀ diagnostic ∈ reservedOutputKey document,
      FoundBy document "reserved_output_key" diagnostic := by
  intro diagnostic hm
  obtain hm | hm := List.mem_append.1 hm
  · obtain ⟨⟨dependency, index⟩, -, h⟩ := List.mem_filterMap.1 hm
    exact foundBy_reservedAt h (.inl ⟨index, rfl⟩)
  · obtain ⟨⟨path, step⟩, hplaced, h⟩ := List.mem_filterMap.1 hm
    obtain ⟨outputKey, -, h⟩ := Option.bind_eq_some_iff.1 h
    exact foundBy_reservedAt h (isPlace_of_mem_placedSteps hplaced)

theorem foundBy_controlFlowRequiresV3 :
    ∀ diagnostic ∈ controlFlowRequiresV3 document,
      FoundBy document "control_flow_requires_v3" diagnostic := by
  intro diagnostic hm
  unfold controlFlowRequiresV3 at hm
  split at hm
  · cases hm
  · obtain ⟨⟨step, index⟩, hindex, h⟩ := List.mem_filterMap.1 hm
    obtain ⟨-, h⟩ := Option.ite_none_right_eq_some.1 h
    cases h
    have hplace : Pipeline.stepPlace "pipeline" index ∈
        (Pipeline.placedSteps document.pipeline).map Prod.fst := Pipeline.stepPlace_mem_walk hindex
    exact ⟨_, _, _, rfl, .inr hplace⟩

theorem foundBy_duplicateServiceKey :
    ∀ diagnostic ∈ duplicateServiceKey document,
      FoundBy document "duplicate_service_key" diagnostic := by
  intro diagnostic hm
  obtain ⟨⟨dependency, index⟩, -, rfl⟩ := List.mem_map.1 hm
  exact ⟨_, _, _, rfl, .inl ⟨index, rfl⟩⟩

theorem rule_path_of_mem_emptyPipeline :
    ∀ diagnostic ∈ emptyPipeline document,
      diagnostic.rule = "empty_pipeline" ∧ diagnostic.path = none := by
  unfold emptyPipeline
  split
  · exact List.forall_mem_singleton.2 ⟨rfl, rfl⟩
  · exact nofun

/-- The path of a diagnostic is the place of what it is about. -/
theorem isPlace_of_mem_diagnose {diagnostic : Diagnostic}
    (hm : diagnostic ∈ diagnose registry document) {path : String}
    (h : diagnostic.path = some path) : IsPlace document path := by
  simp only [diagnose, List.mem_append] at hm
  obtain ((((hm | hm) | hm) | hm) | hm) | hm := hm
  · exact (foundBy_unknownBrick registry document diagnostic hm).isPlace h
  · exact (foundBy_invalidOutputKey document diagnostic hm).isPlace h
  · exact (foundBy_reservedOutputKey document diagnostic hm).isPlace h
  · exact (foundBy_controlFlowRequiresV3 document diagnostic hm).isPlace h
  · exact (foundBy_duplicateServiceKey document diagnostic hm).isPlace h
  · rw [(rule_path_of_mem_emptyPipeline document diagnostic hm).2] at h
    cases h

theorem filter_rule_eq {rule : String} {diagnostics : List Diagnostic}
    (h : ∀ diagnostic ∈ diagnostics, diagnostic.rule = rule) (name : String) :
    diagnostics.filter (·.rule = name) = if rule = name then diagnostics else [] := by
  split
  · rename_i he
    exact List.filter_eq_self.2 fun diagnostic hm => decide_eq_true ((h diagnostic hm).trans he)
  · rename_i hne
    refine List.filter_eq_nil_iff.2 fun diagnostic hm => ?_
    rw [h diagnostic hm]
    simpa using hne

/-- The diagnostics that bear some name, rule by rule. -/
theorem filter_rule_diagnose (name : String) :
    (diagnose registry document).filter (·.rule = name) =
      (if "unknown_brick" = name then unknownBrick registry document else []) ++
      (if "invalid_output_key" = name then invalidOutputKey document else []) ++
      (if "reserved_output_key" = name then reservedOutputKey document else []) ++
      (if "control_flow_requires_v3" = name then controlFlowRequiresV3 document else []) ++
      (if "duplicate_service_key" = name then duplicateServiceKey document else []) ++
      (if "empty_pipeline" = name then emptyPipeline document else []) := by
  simp only [diagnose, List.filter_append,
    filter_rule_eq fun d hm => (foundBy_unknownBrick registry document d hm).rule_eq,
    filter_rule_eq fun d hm => (foundBy_invalidOutputKey document d hm).rule_eq,
    filter_rule_eq fun d hm => (foundBy_reservedOutputKey document d hm).rule_eq,
    filter_rule_eq fun d hm => (foundBy_controlFlowRequiresV3 document d hm).rule_eq,
    filter_rule_eq fun d hm => (foundBy_duplicateServiceKey document d hm).rule_eq,
    filter_rule_eq fun d hm => (rule_path_of_mem_emptyPipeline document d hm).1]

theorem diagnose_unknownBrick :
    (diagnose registry document).filter (·.rule = "unknown_brick") =
      unknownBrick registry document := by
  simp [filter_rule_diagnose]

theorem diagnose_controlFlowRequiresV3 :
    (diagnose registry document).filter (·.rule = "control_flow_requires_v3") =
      controlFlowRequiresV3 document := by
  simp [filter_rule_diagnose]

theorem diagnose_duplicateServiceKey :
    (diagnose registry document).filter (·.rule = "duplicate_service_key") =
      duplicateServiceKey document := by
  simp [filter_rule_diagnose]

end Lint
end BrickPipeline
