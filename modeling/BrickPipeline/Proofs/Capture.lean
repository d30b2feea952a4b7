import BrickPipeline.Proofs.Codec
import BrickPipeline.Proofs.Depth

/-!
Captured sub-pipelines. A sub-pipeline that a brick has captured runs in the context of that brick,
wherever it is run later and also after a trip through JSON. Capturing puts that context in the
place of any environment that the sub-pipeline had before.
-/
namespace BrickPipeline

variable {σ : Type}

namespace SubPipeline

/-- The sub-pipeline without the bindings that it is closed over. -/
def opened (sub : SubPipeline) : SubPipeline := ⟨sub.steps, none⟩

theorem opened_eq_self {sub : SubPipeline} (h : sub.environment = none) : sub.opened = sub := by
  obtain ⟨steps, environment⟩ := sub
  obtain rfl : environment = none := h
  rfl

/-- What is read back of a sub-pipeline: its steps as they are read back, and its environment. -/
theorem fromJson_toJson (sub : SubPipeline) :
    fromJson sub.toJson =
      (Expr.invalidPipeline (Expr.readStepItems (Expr.stepsToJson sub.steps))).map
        fun read => ⟨read, sub.environment⟩ := by
  have hexpr : Expr.fromJson sub.toJson = _ := Expr.fromJson_pipeline sub.steps sub.environment
  unfold fromJson
  rw [hexpr]
  cases Expr.invalidPipeline (Expr.readStepItems (Expr.stepsToJson sub.steps)) with
  | error error => rfl
  | ok read => rfl

end SubPipeline

namespace Brick.Access

variable (access : Brick.Access) (sub : SubPipeline)

/-- It does not matter whether a sub-pipeline crosses JSON before or after it is captured. -/
theorem fromJson_close :
    SubPipeline.fromJson (access.close sub).toJson =
      (SubPipeline.fromJson sub.toJson).map access.close := by
  have hsteps : (access.close sub).steps = sub.steps := rfl
  rw [SubPipeline.fromJson_toJson, SubPipeline.fromJson_toJson, hsteps]
  cases Expr.invalidPipeline (Expr.readStepItems (Expr.stepsToJson sub.steps)) with
  | error error => rfl
  | ok read => rfl

/-- A captured sub-pipeline runs as the sub-pipeline without an environment runs below the brick
that has captured it. -/
theorem run_close (nested : Runner σ) (caller : Context) (bindings : List (String × Json))
    (state : σ) :
    Call.run nested ⟨access.close sub, caller, bindings, state⟩ =
      Call.run nested ⟨sub.opened, access.context, bindings, state⟩ := rfl

end Brick.Access

namespace Host

variable (host : Host σ) (info : RunInfo)

/-- Running a captured sub-pipeline. At whatever depth and below whatever brick it is run later, it
does what the sub-pipeline without an environment, which is the sub-pipeline itself unless it was
closed before, does when the capturing brick runs it with the same bindings. Capturing and crossing
JSON can be exchanged, so a legible sub-pipeline is read back as it was captured. Of two captures
the later counts. -/
theorem run_captured (access : Brick.Access) (sub : SubPipeline)
    (bindings : List (String × Json)) (state : σ) :
    let captured := access.close sub
    let here (definition : Nat) :=
      Call.run (host.runPipeline info definition) ⟨sub.opened, access.context, bindings, state⟩
    let there (later : Nat) (caller : Context) :=
      Call.run (host.runPipeline info later) ⟨captured, caller, bindings, state⟩
    (∀ definition later caller,
      ((here definition).answer ≠ none → (there later caller).answer ≠ none →
        there later caller = here definition) ∧
      (definition ≤ later → (here definition).answer ≠ none → (there later caller).answer ≠ none) ∧
      (later ≤ definition → (there later caller).answer ≠ none → (here definition).answer ≠ none)) ∧
    (sub.environment = none → sub.opened = sub) ∧
    SubPipeline.fromJson captured.toJson = (SubPipeline.fromJson sub.toJson).map access.close ∧
    (Expr.LegibleSteps sub.steps → SubPipeline.fromJson captured.toJson = .ok captured) ∧
    ∀ other : Brick.Access, other.close captured = other.close sub := by
  intro captured here there
  have hthere : ∀ later caller, there later caller = here later :=
    fun later caller => access.run_close sub (host.runPipeline info later) caller bindings state
  -- A run that has an answer has it at every greater depth.
  have hdeeper : ∀ less more, less ≤ more → (here less).answer ≠ none →
      (here more).answer ≠ none := by
    intro less more hle hless
    have heq : here more = here less := host.runPipeline_extends info hle _ _ _ hless
    rw [heq]
    exact hless
  refine ⟨fun definition later caller => ⟨?_, ?_, ?_⟩, SubPipeline.opened_eq_self,
    access.fromJson_close sub, fun legible => ?_, fun _ => rfl⟩
  · intro hdefinition hlater
    rw [hthere] at hlater ⊢
    exact host.runPipeline_agree info hlater hdefinition
  · intro hle hdefinition
    rw [hthere]
    exact hdeeper definition later hle hdefinition
  · intro hle hlater
    rw [hthere] at hlater
    exact hdeeper later definition hle hlater
  · exact SubPipeline.fromJson_pipeline legible (some access.context)

end Host

namespace Sample

theorem legible_telling (key : String) : Expr.LegibleSteps (telling key) := by
  have hconfig : Expr.LegibleEntries [("seen", .var (some key))] := ⟨trivial, trivial⟩
  exact ⟨⟨hconfig, trivial⟩, trivial⟩

/-- Bindings that say whose they are. -/
def owned (owner : String) : Context := Context.empty.bind "@who" (.string owner)

def accessOf (owner : String) : Brick.Access :=
  ⟨owned owner, .document, (Brick.identity : Brick Unit).id, .standard, info⟩

end Sample

theorem Host.run_captured_sample :
    let sub : SubPipeline := ⟨Sample.telling "@who", none⟩
    let captured := (Sample.accessOf "definition").close sub
    SubPipeline.fromJson captured.toJson = .ok captured ∧
      Call.run (Sample.host.runPipeline Sample.info 3) ⟨captured, Sample.owned "later", [], ()⟩ =
        Call.run (Sample.host.runPipeline Sample.info 1)
          ⟨sub, Sample.owned "definition", [], ()⟩ ∧
      Sample.seen? (Call.run (Sample.host.runPipeline Sample.info 3)
        ⟨captured, Sample.owned "later", [], ()⟩) = some "definition" := by
  intro sub captured
  obtain ⟨hruns, -, -, htrip, -⟩ :=
    Sample.host.run_captured Sample.info (Sample.accessOf "definition") sub [] ()
  obtain ⟨hsame, hdeeper, -⟩ := hruns 1 3 (Sample.owned "later")
  have hseen : Sample.seen? (Call.run (Sample.host.runPipeline Sample.info 1)
      ⟨sub, Sample.owned "definition", [], ()⟩) = some "definition" := by decide +kernel
  have hhere : (Call.run (Sample.host.runPipeline Sample.info 1)
      ⟨sub, Sample.owned "definition", [], ()⟩).answer ≠ none := by
    obtain ⟨value, hvalue⟩ := Sample.exists_value_of_seen? hseen
    rw [hvalue]
    exact Option.some_ne_none _
  have hrun := hsame hhere (hdeeper (by decide) hhere)
  refine ⟨htrip (Sample.legible_telling "@who"), hrun, ?_⟩
  rw [← hseen]
  exact congrArg Sample.seen? hrun

/-- A sub-pipeline that is closed already loses the environment of its definition when it is
captured. -/
theorem Host.exists_recaptured :
    ∃ (sub : SubPipeline) (access : Brick.Access) (caller : Context),
      let nested := Sample.host.runPipeline Sample.info 1
      Expr.LegibleSteps sub.steps ∧
        Sample.seen? (Call.run nested ⟨sub, access.context, [], ()⟩) = some "definition" ∧
        Sample.seen? (Call.run nested ⟨access.close sub, caller, [], ()⟩) = some "capture" := by
  refine ⟨⟨Sample.telling "@who", some (Sample.owned "definition")⟩, Sample.accessOf "capture",
    .empty, Sample.legible_telling "@who", ?_, ?_⟩
  · decide +kernel
  · decide +kernel

end BrickPipeline
