import BrickPipeline.Proofs.History
import BrickPipeline.Proofs.KeyOrder

/-!
Steps made in code. Unlike a step that was read, such a step can have a condition that is null. What
is written for it is read as no condition, and everything else in the step is read back as it was.
-/
namespace BrickPipeline

open BrickPipeline.Expr

mutual

/-- The config values that can be made in code: what was read from a value in memory, templates and
variables with a text, literals, pipelines of steps, and deferred values. -/
inductive Expr.Built : Expr → Prop where
  | read {value : Json} {read : Expr} (ordered : value.Ordered)
    (h : Expr.fromJson value = .ok read) : Expr.Built read
  | template (engine : Engine) (source : String) : Expr.Built (.template engine (some source))
  | var (path : String) : Expr.Built (.var (some path))
  | text (s : String) : Expr.Built (.str s)
  | bool (b : Bool) : Expr.Built (.literal (.bool b))
  | int (n : Int) : Expr.Built (.literal (.int n))
  | pipeline {steps : Pipeline} (h : ∀ step ∈ steps, Step.Built step) : Expr.Built (.ofSteps steps)
  | defer {inner : Expr} (h : Expr.Built inner) : Expr.Built (.defer inner)

/-- The steps that can be made in code, or read. -/
inductive Step.Built : Step → Prop where
  | read {origin : Wire.Origin} {tree : Json.Tree} {step : Step}
    (h : Step.read origin tree = .ok step) : Step.Built step
  | new (id : BrickId) : Step.Built (.new id)
  | withArg {step : Step} (h : Step.Built step) (name : String) {value : Expr}
    (hv : Expr.Built value) : Step.Built (step.withArg name value)
  | withOutputKey {step : Step} (h : Step.Built step) (outputKey : String) :
    Step.Built (step.withOutputKey outputKey)
  | alerting {step : Step} (h : Step.Built step) : Step.Built step.alerting
  | onlyIf {step : Step} (h : Step.Built step) {condition : Expr} (hc : Expr.Built condition) :
    Step.Built (step.onlyIf condition)

end

namespace Expr

mutual

/-- The config value without the conditions in it that are null. -/
def settled : Expr → Expr
  | .pipeline steps environment => .pipeline (settledSteps steps) environment
  | .defer inner => .defer (settled inner)
  | .array items => .array (settledItems items)
  | .object entries => .object (settledEntries entries)
  | .literal value => .literal value
  | .template engine source => .template engine source
  | .var path => .var path

def settledItems : List Expr → List Expr
  | [] => []
  | item :: rest => settled item :: settledItems rest

def settledEntries : List (String × Expr) → List (String × Expr)
  | [] => []
  | (key, value) :: rest => (key, settled value) :: settledEntries rest

def settledCondition : Option Expr → Option Expr
  | none => none
  | some (.literal .null) => none
  | some condition => some (settled condition)

def settledSteps : List Step → List Step
  | [] => []
  | step :: rest => settledStep step :: settledSteps rest

/-- The step without its condition if that is null, and without the conditions in it that are. -/
def settledStep : Step → Step
  | .mk id config outputKey onError condition engine label instanceId =>
    .mk id (settledEntries config) outputKey onError (settledCondition condition) engine label
      instanceId

end

theorem settledCondition_of_ne {condition : Expr} (h : condition ≠ .literal .null) :
    settledCondition (some condition) = some condition.settled := by
  unfold settledCondition
  split
  · rename_i heq
    cases heq
  · rename_i heq
    cases heq
    exact absurd rfl h
  · rename_i heq
    cases heq
    rfl

theorem settledSteps_eq_map (steps : List Step) : settledSteps steps = steps.map settledStep := by
  induction steps with
  | nil => rfl
  | cons step rest ih => rw [settledSteps, ih, List.map_cons]

mutual

/-- In a legible value no condition is null. -/
theorem settled_of_legible : ∀ value, Legible value → settled value = value
  | .literal _, _ | .template .., _ | .var _, _ => rfl
  | .pipeline steps environment, h => by rw [settled, settledSteps_of_legible steps h]
  | .defer inner, h => by rw [settled, settled_of_legible inner h]
  | .array items, h => by rw [settled, settledItems_of_legible items h]
  | .object entries, h => by rw [settled, settledEntries_of_legible entries h.2]

theorem settledItems_of_legible : ∀ items, LegibleItems items → settledItems items = items
  | [], _ => rfl
  | item :: rest, h => by
    rw [settledItems, settled_of_legible item h.1, settledItems_of_legible rest h.2]

theorem settledEntries_of_legible : ∀ entries, LegibleEntries entries →
    settledEntries entries = entries
  | [], _ => rfl
  | (key, value) :: rest, h => by
    rw [settledEntries, settled_of_legible value h.1, settledEntries_of_legible rest h.2]

theorem settledCondition_of_legible : ∀ condition, LegibleCondition condition →
    settledCondition condition = condition
  | none, _ => rfl
  | some condition, h => by
    rw [settledCondition_of_ne h.1, settled_of_legible condition h.2]

theorem settledSteps_of_legible : ∀ steps, LegibleSteps steps → settledSteps steps = steps
  | [], _ => rfl
  | step :: rest, h => by
    rw [settledSteps, settledStep_of_legible step h.1, settledSteps_of_legible rest h.2]

theorem settledStep_of_legible : ∀ step, LegibleStep step → settledStep step = step
  | .mk _ config _ _ condition _ _ _, h => by
    rw [settledStep, settledEntries_of_legible config h.1,
      settledCondition_of_legible condition h.2]

end

/-- Whether a config value is read back but for conditions that are null. -/
structure Survives (value : Expr) : Prop where
  reread : fromJson value.toJson = .ok value.settled
  ordered : value.toJson.Ordered

end Expr

/-- Whether what a step is made of is read back but for conditions that are null. -/
structure Step.Survives (step : Step) : Prop where
  config : ∀ entry ∈ step.config, Expr.Survives entry.2
  sorted : Entries.Sorted step.config
  condition : ∀ value, step.condition = some value → Expr.Survives value

namespace Expr

theorem survives_of_legible {value : Expr} (legible : Legible value)
    (ordered : value.toJson.Ordered) : Survives value := by
  have hsettled := settled_of_legible value legible
  refine ⟨?_, ordered⟩
  rw [hsettled]
  exact fromJson_toJson value legible

theorem fromEntries_of_survives {entries : List (String × Expr)}
    (h : ∀ entry ∈ entries, Survives entry.2) :
    fromEntries (entriesToJson entries) = .ok (settledEntries entries) := by
  induction entries with
  | nil => rfl
  | cons entry rest ih =>
    obtain ⟨key, value⟩ := entry
    have hvalue := (h (key, value) List.mem_cons_self).reread
    have hrest := ih fun entry hm => h entry (List.mem_cons_of_mem _ hm)
    rw [entriesToJson, fromEntries, hvalue, hrest]
    rfl

theorem rereadCondition_of_survives {condition : Option Expr}
    (h : ∀ value, condition = some value → Survives value) :
    rereadCondition condition = .ok (settledCondition condition) := by
  cases condition with
  | none => rfl
  | some value =>
    by_cases hn : value = .literal .null
    · subst hn
      rfl
    · rw [settledCondition_of_ne hn]
      exact optionalValue_toJson hn (h value rfl).reread

end Expr

namespace Step.Survives

variable {step : Step} (survives : step.Survives)

include survives

theorem readStep_toJson : readStep step.toJson = .ok (settledStep step) := by
  obtain ⟨id, config, outputKey, onError, condition, engine, label, instanceId⟩ := step
  exact readStep_stepToJson_mk id outputKey onError engine label instanceId
    (fromEntries_of_survives survives.config) (rereadCondition_of_survives survives.condition)

theorem ordered_toJson : step.toJson.Ordered := by
  obtain ⟨id, config, outputKey, onError, condition, engine, label, instanceId⟩ := step
  have hconfig : (Expr.object config).toJson.Ordered := by
    refine ⟨?_, orderedFields_entriesToJson.2 fun entry hm => (survives.config entry hm).ordered⟩
    show (Entries.keys (entriesToJson config)).Pairwise (· < ·)
    rw [keys_entriesToJson]
    exact survives.sorted
  exact ordered_stepToJson hconfig fun value h => (survives.condition value h).ordered

end Step.Survives

theorem Expr.survives_defer {inner : Expr} (h : Survives inner) : Survives (.defer inner) := by
  have hcontent : ∀ all : Entries Json, fromContent .defer all
      [(typeTag, .string "defer"), (valueTag, inner.toJson)] = .defer <$> fromJson inner.toJson :=
    fun _ => rfl
  refine ⟨?_, ordered_tagged "defer" h.ordered⟩
  rw [toJson, fromJson_tagged .defer rfl, hcontent, h.reread]
  rfl

theorem Expr.survives_ofSteps {steps : Pipeline} (h : ∀ step ∈ steps, Step.Survives step) :
    Expr.Survives (.ofSteps steps) := by
  have hparts : readStepItems (stepsToJson steps) = .ok (settledSteps steps) ∧
      Json.OrderedItems (stepsToJson steps) := by
    induction steps with
    | nil => exact ⟨rfl, trivial⟩
    | cons step rest ih =>
      have hstep := h step List.mem_cons_self
      obtain ⟨hread, hordered⟩ := ih fun step hm => h step (List.mem_cons_of_mem _ hm)
      refine ⟨?_, hstep.ordered_toJson, hordered⟩
      rw [stepsToJson, readStepItems, show stepToJson step = step.toJson from rfl,
        hstep.readStep_toJson, hread]
      rfl
  refine ⟨?_, ordered_pipeline hparts.2 nofun⟩
  unfold ofSteps
  rw [fromJson_pipeline, hparts.1]
  rfl

namespace Step

theorem survives_of_read {origin : Wire.Origin} {tree : Json.Tree} {step : Step}
    (h : Step.read origin tree = .ok step) : step.Survives := by
  have legible := legible_of_read h
  have hordered := ordered_of_read h
  obtain ⟨id, config, outputKey, onError, condition, engine, label, instanceId⟩ := step
  obtain ⟨hentries, hcondition⟩ := legible
  have hfields := Json.orderedFields_iff.1 hordered.2
  have hconfig : (Expr.object config).toJson.Ordered := hfields ("config", _) (by simp)
  refine ⟨fun entry hm => ?_, ?_, ?_⟩
  · exact survives_of_legible (legibleEntries_iff.1 hentries entry hm)
      (orderedFields_entriesToJson.1 hconfig.2 entry hm)
  · show (Entries.keys config).Pairwise (· < ·)
    rw [← keys_entriesToJson]
    exact hconfig.1
  · rintro value hvalue
    obtain rfl : condition = some value := hvalue
    exact survives_of_legible hcondition.2 (hfields ("if", _) (by simp [conditionToJson]))

theorem survives_new (id : BrickId) : (new id).Survives := ⟨nofun, List.Pairwise.nil, nofun⟩

namespace Survives

variable {step : Step} (survives : step.Survives)

include survives

theorem withArg (name : String) {value : Expr} (hv : Expr.Survives value) :
    (step.withArg name value).Survives := by
  refine ⟨fun entry hm => ?_, Entries.sorted_insert name value survives.sorted, survives.condition⟩
  rcases Entries.mem_of_mem_insert hm with rfl | hm
  · exact hv
  · exact survives.config entry hm

theorem withOutputKey (outputKey : String) : (step.withOutputKey outputKey).Survives :=
  ⟨survives.config, survives.sorted, survives.condition⟩

theorem alerting : step.alerting.Survives :=
  ⟨survives.config, survives.sorted, survives.condition⟩

theorem onlyIf {condition : Expr} (hc : Expr.Survives condition) :
    (step.onlyIf condition).Survives := by
  refine ⟨survives.config, survives.sorted, ?_⟩
  rintro value hvalue
  obtain rfl : condition = value := Option.some.inj hvalue
  exact hc

end Survives
end Step

mutual

theorem Expr.Built.survives : ∀ {value : Expr}, value.Built → Expr.Survives value
  | _, .read ordered h =>
    survives_of_legible (legible_of_fromJson _ h) (ordered_of_fromJson _ ordered h)
  | _, .template engine source =>
    survives_of_legible trivial (ordered_tagged engine.name trivial)
  | _, .var path => survives_of_legible trivial (ordered_tagged "var" trivial)
  | _, .text _ | _, .bool _ | _, .int _ => survives_of_legible trivial trivial
  | _, .pipeline h => survives_ofSteps fun step hm => (h step hm).survives
  | _, .defer h => survives_defer h.survives

theorem Step.Built.survives : ∀ {step : Step}, step.Built → step.Survives
  | _, .read h => Step.survives_of_read h
  | _, .new id => Step.survives_new id
  | _, .withArg h name hv => h.survives.withArg name hv.survives
  | _, .withOutputKey h outputKey => h.survives.withOutputKey outputKey
  | _, .alerting h => h.survives.alerting
  | _, .onlyIf h hc => h.survives.onlyIf hc.survives

end

/-- A sub-pipeline argument is read with the conditions that are null left out. -/
theorem Arguments.subPipeline?_of_survives {steps : Pipeline}
    (survives : Expr.Survives (.ofSteps steps)) (id : BrickId) {args : Json} {name : String}
    (h : args.get? name = some (Expr.ofSteps steps).toJson) :
    subPipeline? id args name = .ok (some ⟨settledSteps steps, none⟩) := by
  have hread : SubPipeline.fromJson (Expr.ofSteps steps).toJson =
      .ok ⟨settledSteps steps, none⟩ := by
    rw [SubPipeline.fromJson, survives.reread]
    rfl
  obtain ⟨fields, hfields⟩ : ∃ fields, (Expr.ofSteps steps).toJson = .object fields := ⟨_, rfl⟩
  rw [hfields] at h hread
  unfold subPipeline?
  rw [h]
  dsimp only
  rw [hread]

/-- Steps made in code and the wire. A step is read back as it was but that conditions which are
null, its own and those in its sub-pipelines, are left out; that is the step itself just if it could
have been read in the first place. The same goes for steps that a brick gets as a sub-pipeline, so
the brick runs the steps that were made unless there is something to leave out. -/
theorem Step.read_toJson_of_built {σ : Type} {steps : Pipeline}
    (built : ∀ step ∈ steps, step.Built) :
    (∀ step ∈ steps, Step.read .value step.toJson.toTree = .ok (settledStep step) ∧
      (settledStep step = step ↔ LegibleStep step)) ∧
      ∀ id args name, args.get? name = some (Expr.ofSteps steps).toJson →
        let sub : SubPipeline := ⟨steps.map settledStep, none⟩
        Arguments.subPipeline? id args name = .ok (some sub) ∧
          ((∀ step ∈ steps, LegibleStep step) →
            ∀ (nested : Runner σ) (caller : Context) (state : σ),
              Call.run nested ⟨sub, caller, [], state⟩ = nested steps caller state) := by
  have survives : ∀ step ∈ steps, Step.Survives step := fun step hm => (built step hm).survives
  refine ⟨fun step hm => ⟨?_, ?_⟩, fun id args name h => ?_⟩
  · rw [Step.read_toTree (survives step hm).ordered_toJson]
    exact (survives step hm).readStep_toJson
  · constructor
    · intro hsettled
      have hread := (survives step hm).readStep_toJson
      rw [hsettled] at hread
      exact legible_of_readStep step.toJson hread
    · exact settledStep_of_legible step
  · intro sub
    constructor
    · have hargument := Arguments.subPipeline?_of_survives (survives_ofSteps survives) id h
      rw [settledSteps_eq_map] at hargument
      exact hargument
    · intro legible nested caller state
      have hsame : steps.map settledStep = steps := by
        calc steps.map settledStep
          _ = steps.map fun step => step :=
            List.map_congr_left fun step hm => settledStep_of_legible step (legible step hm)
          _ = steps := List.map_id' steps
      unfold Call.run sub
      rw [hsame]
      rfl

namespace Sample

/-- A step made in code. -/
def made : Step :=
  (((Step.new (Brick.identity : Brick Unit).id).withArg "seen" (.str "made")).withOutputKey
    "told").alerting

theorem built_made : made.Built :=
  (((Step.Built.new _).withArg "seen" (.text "made")).withOutputKey "told").alerting

end Sample

theorem Step.read_toJson_of_built_sample :
    let step := Sample.made.onlyIf (.var (some "@who"))
    let args := Json.object [("try", (Expr.ofSteps [step]).toJson)]
    Step.read .value step.toJson.toTree = .ok step ∧
      Arguments.subPipeline? Brick.Containment.id args "try" = .ok (some ⟨[step], none⟩) ∧
      Call.run (Sample.host.runPipeline Sample.info 1) ⟨⟨[step], none⟩, .empty, [], ()⟩ =
        Sample.host.runPipeline Sample.info 1 [step] .empty () := by
  intro step args
  have built : ∀ made ∈ [step], made.Built := by
    intro made hm
    obtain rfl := List.mem_singleton.1 hm
    exact Sample.built_made.onlyIf (.var "@who")
  have legible : ∀ made ∈ [step], LegibleStep made := by
    intro made hm
    obtain rfl := List.mem_singleton.1 hm
    exact ⟨⟨trivial, trivial⟩, nofun, trivial⟩
  obtain ⟨hread, hnested⟩ := Step.read_toJson_of_built built
  obtain ⟨hstep, hsettled⟩ := hread step List.mem_cons_self
  have hsame : settledStep step = step := hsettled.2 (legible step List.mem_cons_self)
  obtain ⟨hargument, hruns⟩ := hnested Brick.Containment.id args "try" rfl
  have hrun := hruns legible (Sample.host.runPipeline Sample.info 1) .empty ()
  rw [List.map_singleton, hsame] at hargument hrun
  rw [hsame] at hstep
  exact ⟨hstep, hargument, hrun⟩

/-- A step with a condition that is null is skipped where it stands. It is not read back as it was,
so a brick that gets it as a sub-pipeline runs it. -/
theorem Step.exists_built_unread :
    ∃ step : Step, step.Built ∧ Step.read .value step.toJson.toTree ≠ .ok step ∧
      (Sample.host.runPipeline Sample.info 1 [step] .empty ()).answer = some (.ok .null) ∧
      Sample.seen? (Sample.host.runPipeline Sample.info 2
        [(Step.new Brick.Containment.id).withArg "try" (.ofSteps [step])] .empty ()) =
          some "made" := by
  have hnull : Expr.Built (.literal .null) := .read (show Json.Ordered .null from trivial) rfl
  refine ⟨Sample.made.onlyIf (.literal .null), Sample.built_made.onlyIf hnull, ?_, rfl, ?_⟩
  · intro hread
    have legible := Step.legible_of_read hread
    exact legible.2.1 rfl
  · decide +kernel

end BrickPipeline
