import BrickPipeline.Proofs.History

/-!
Where failures and their context layers come from. A step that cannot run fails for one of a few
reasons, a control-flow brick refuses arguments that it cannot do with, and neither puts a layer on
a failure: the built-in bricks only hand on layers that they met in the sub-pipelines they ran.
-/
namespace BrickPipeline

variable {σ : Type}

/-- Whether a failure, if there is one, has a property. -/
def FailsOnly {α : Type} (P : Error → Prop) (result : Except Error α) : Prop :=
  ∀ error, result = .error error → P error

namespace FailsOnly

variable {α β : Type} {P : Error → Prop}

theorem ok (value : α) : FailsOnly P (.ok value) := nofun

theorem error {failure : Error} (h : P failure) :
    FailsOnly P (.error failure : Except Error α) := by
  intro error he
  cases he
  exact h

theorem map (f : α → β) {first : Except Error α} (h : FailsOnly P first) :
    FailsOnly P (f <$> first) := by
  cases first with
  | error failure => exact error (h failure rfl)
  | ok value => exact ok (f value)

theorem bind {first : Except Error α} {next : α → Except Error β} (hf : FailsOnly P first)
    (hn : ∀ value, FailsOnly P (next value)) : FailsOnly P (first >>= next) := by
  cases first with
  | error failure => exact error (hf failure rfl)
  | ok value => exact hn value

end FailsOnly

namespace Error

/-- A failure to render a template. -/
def IsTemplate (error : Error) : Prop := ∃ engine message, error = .template engine message

/-- A failure of a brick that cannot do with its arguments. -/
def IsRefusal (brickId : BrickId) (error : Error) : Prop :=
  ∃ arg message, error = .invalidArgument brickId arg message

theorem IsTemplate.plain {error : Error} (h : error.IsTemplate) : error.isContext = false := by
  obtain ⟨engine, message, rfl⟩ := h
  rfl

theorem IsRefusal.plain {brickId : BrickId} {error : Error} (h : error.IsRefusal brickId) :
    error.isContext = false := by
  obtain ⟨arg, message, rfl⟩ := h
  rfl

end Error

/-! Rendering fails on templates alone. -/

namespace Render

open Error

variable (renderers : Renderers) (engine : Engine) (ctx : Context)

theorem failsOnly_render (template : String) (bindings : Entries Json) :
    FailsOnly IsTemplate (renderers.render engine template bindings) := by
  unfold Renderers.render
  split
  · exact .error ⟨_, _, rfl⟩
  · rename_i renderer _
    cases renderer template bindings with
    | error fault => exact .error ⟨_, _, rfl⟩
    | ok text => exact .ok text

theorem failsOnly_templateText (source : Option String) :
    FailsOnly IsTemplate (templateText renderers engine source ctx) := by
  cases source with
  | none => exact .ok _
  | some source => exact .map _ (failsOnly_render renderers engine source ctx.bindings)

theorem failsOnly_literal (value : Json) :
    FailsOnly IsTemplate (literal renderers engine value ctx) := by
  unfold literal
  split
  · split
    · exact .ok _
    · exact .map _ (failsOnly_render renderers engine _ ctx.bindings)
  · exact .ok _

mutual

theorem failsOnly_explicit : ∀ config, FailsOnly IsTemplate (explicit renderers ctx config)
  | .literal _ => .ok _
  | .template engine source => failsOnly_templateText renderers engine ctx source
  | .var _ => .ok _
  | .pipeline _ _ => .ok _
  | .defer _ => .ok _
  | .array items => .map _ (failsOnly_explicitItems items)
  | .object entries => .map _ (failsOnly_explicitEntries entries)

theorem failsOnly_explicitItems : ∀ items,
    FailsOnly IsTemplate (explicitItems renderers ctx items)
  | [] => .ok _
  | item :: rest =>
    .bind (failsOnly_explicit item) fun _ => .bind (failsOnly_explicitItems rest) fun _ => .ok _

theorem failsOnly_explicitEntries : ∀ entries,
    FailsOnly IsTemplate (explicitEntries renderers ctx entries)
  | [] => .ok _
  | (_, value) :: rest =>
    .bind (failsOnly_explicit value) fun _ =>
      .bind (failsOnly_explicitEntries rest) fun _ => .ok _

end

mutual

theorem failsOnly_implicit : ∀ config,
    FailsOnly IsTemplate (implicit renderers engine ctx config)
  | .literal value => failsOnly_literal renderers engine ctx value
  | .template engine source => failsOnly_templateText renderers engine ctx source
  | .var _ => .ok _
  | .pipeline _ _ => .ok _
  | .defer _ => .ok _
  | .array items => .map _ (failsOnly_implicitItems items)
  | .object entries => .map _ (failsOnly_implicitEntries entries)

theorem failsOnly_implicitItems : ∀ items,
    FailsOnly IsTemplate (implicitItems renderers engine ctx items)
  | [] => .ok _
  | item :: rest =>
    .bind (failsOnly_implicit item) fun _ => .bind (failsOnly_implicitItems rest) fun _ => .ok _

theorem failsOnly_implicitEntries : ∀ entries,
    FailsOnly IsTemplate (implicitEntries renderers engine ctx entries)
  | [] => .ok _
  | (_, value) :: rest =>
    .bind (failsOnly_implicit value) fun _ =>
      .bind (failsOnly_implicitEntries rest) fun _ => .ok _

end

theorem failsOnly_value (mode : RenderMode) (config : Expr) :
    FailsOnly IsTemplate (value renderers mode ctx config) := by
  cases mode with
  | explicit => exact failsOnly_explicit renderers ctx config
  | implicit engine => exact failsOnly_implicit renderers engine ctx config

theorem failsOnly_arguments (mode : RenderMode) (config : Entries Expr) :
    FailsOnly IsTemplate (arguments renderers mode ctx config) := by
  cases mode with
  | explicit => exact .map _ (failsOnly_explicitEntries renderers ctx config)
  | implicit engine => exact .map _ (failsOnly_implicitEntries renderers engine ctx config)

end Render

namespace Host

theorem failsOnly_holds (host : Host σ) (mode : RenderMode) (ctx : Context) (step : Step) :
    FailsOnly Error.IsTemplate (host.holds mode ctx step) := by
  unfold holds
  split
  · exact .ok _
  · exact .map _ (Render.failsOnly_value _ _ _ _)

/-- Why a step cannot run: its output key is reserved, its brick is not registered, its condition
or its arguments cannot be rendered, or the brick does not accept them. -/
theorem failed_cases (host : Host σ) (version : ApiVersion) (step : Step) (ctx : Context)
    (running : Json) {args : Json} {error : Error}
    (h : host.prepare version step ctx running = .failed args error) :
    (∃ outputKey, step.outputKey = some outputKey ∧ isReserved outputKey = true ∧
        error = .reservedOutputKey outputKey) ∨
      (host.registry.get? step.id.text = none ∧ error = .unknownBrick step.id) ∨
      error.IsTemplate ∨ ∃ violations, error = .validation step.id violations := by
  unfold prepare at h
  split at h
  · rename_i outputKey hk
    cases h
    obtain ⟨hs, hr⟩ := Option.filter_eq_some_iff.1 hk
    exact Or.inl ⟨outputKey, hs, hr, rfl⟩
  · dsimp only at h
    refine Or.inr ?_
    split at h
    · rename_i failure hholds
      cases h
      exact Or.inr (Or.inl (host.failsOnly_holds _ _ _ _ hholds))
    · cases h
    · unfold prepareArguments at h
      split at h
      · rename_i hn
        cases h
        exact Or.inl ⟨hn, rfl⟩
      · refine Or.inr ?_
        split at h
        · rename_i failure hargs
          cases h
          exact Or.inl (Render.failsOnly_arguments _ _ _ _ _ hargs)
        · split at h
          · cases h
          · cases h
            exact Or.inr ⟨_, rfl⟩

/-- What fails before a brick runs fails without a context layer. -/
theorem prepare_plain (host : Host σ) (version : ApiVersion) (step : Step) (ctx : Context)
    (running : Json) {args : Json} {error : Error}
    (h : host.prepare version step ctx running = .failed args error) :
    error.isContext = false := by
  rcases host.failed_cases version step ctx running h with ⟨_, -, -, rfl⟩ | ⟨-, rfl⟩ | ht | ⟨_, rfl⟩
  · rfl
  · rfl
  · exact ht.plain
  · rfl

end Host

/-- Whether a failure of the routine has a context layer only if it is one of those that it has
met in the sub-pipelines it ran. -/
def Routine.RaisesPlain : Routine σ (Except Error Json) → List Error → Prop
  | done (.ok _), _ => True
  | done (.error error), met => error.isContext = true → error ∈ met
  | log _ next, met => RaisesPlain next met
  | wait _ next, met => RaisesPlain next met
  | call _ _ next, met =>
    (∀ value, RaisesPlain (next (.ok value)) met) ∧
      ∀ error, RaisesPlain (next (.error error)) (error :: met)
  | get next, met => ∀ state, RaisesPlain (next state) met
  | set _ next, met => RaisesPlain next met

/-- Whether the brick never puts a context layer on a failure itself. -/
def Brick.RaisesPlain (brick : Brick σ) : Prop :=
  ∀ args access, (brick.run args access).RaisesPlain []

/-- Whether none of the bricks puts a context layer on a failure itself. -/
def Registry.RaisesPlain (registry : Registry σ) : Prop :=
  ∀ id brick, registry.get? id = some brick → brick.RaisesPlain

namespace Routine

/-- A routine that raises plainly fails with a context layer only as a sub-pipeline did. -/
theorem met_of_exec (nested : Runner σ) (span : Option Log.Span) (ctx : Context)
    (routine : Routine σ (Except Error Json)) (met : List Error) (state : σ) {error : Error}
    (plain : routine.RaisesPlain met)
    (h : (routine.exec nested span ctx state).answer = some (.error error))
    (hc : error.isContext = true) :
    error ∈ met ∨ ∃ call ∈ routine.calls nested ctx state,
      (call.run nested).answer = some (.error error) := by
  induction routine generalizing met state with
  | done answer =>
    obtain rfl : answer = .error error := Option.some.inj h
    exact Or.inl (plain hc)
  | log _ _ ih => exact ih met state plain h
  | wait _ _ ih => exact ih met state plain h
  | call sub bindings next ih =>
    rw [exec_call] at h
    simp only [calls]
    cases ha : (Call.run nested ⟨sub, ctx, bindings, state⟩).answer with
    | none => simp [ha] at h
    | some answer =>
      simp only [ha] at h ⊢
      cases answer with
      | ok value =>
        rcases ih (.ok value) met _ (plain.1 value) h with hm | ⟨below, hb, hf⟩
        · exact Or.inl hm
        · exact Or.inr ⟨below, List.mem_cons_of_mem _ hb, hf⟩
      | error failure =>
        -- From here on the routine may hand on this failure too.
        rcases ih (.error failure) (failure :: met) _ (plain.2 failure) h with hm | ⟨below, hb, hf⟩
        · rcases List.mem_cons.1 hm with rfl | hm
          · exact Or.inr ⟨_, List.mem_cons_self, ha⟩
          · exact Or.inl hm
        · exact Or.inr ⟨below, List.mem_cons_of_mem _ hb, hf⟩
  | get _ ih => exact ih state met state (plain state) h
  | set left _ ih => exact ih met left plain h

end Routine

namespace Brick

theorem raisesPlain_identity : (identity : Brick σ).RaisesPlain := fun _ _ => trivial

theorem raisesPlain_throw : (throw : Brick σ).RaisesPlain := fun _ _ => nofun

theorem raisesPlain_log : (log : Brick σ).RaisesPlain := fun _ _ => trivial

end Brick

/-! A control-flow brick refuses arguments that it cannot do with. -/

namespace Arguments

open Error

theorem refuses_subPipeline? (brickId : BrickId) (args : Json) (name : String) :
    FailsOnly (IsRefusal brickId) (subPipeline? brickId args name) := by
  unfold subPipeline?
  split
  · exact .ok _
  · exact .ok _
  · split
    · exact .ok _
    · exact .error ⟨_, _, rfl⟩

theorem refuses_subPipeline (brickId : BrickId) (args : Json) (name : String) :
    FailsOnly (IsRefusal brickId) (subPipeline brickId args name) := by
  refine .bind (refuses_subPipeline? brickId args name) fun sub => ?_
  cases sub with
  | none => exact .error ⟨_, _, rfl⟩
  | some sub => exact .ok _

theorem refuses_keyArgument (brickId : BrickId) (args : Json) (name default : String) :
    FailsOnly (IsRefusal brickId) (keyArgument brickId args name default) := by
  unfold keyArgument
  split
  · exact .ok _
  · exact .ok _
  · split
    · exact .error ⟨_, _, rfl⟩
    · exact .ok _
  · exact .error ⟨_, _, rfl⟩

theorem refuses_count (brickId : BrickId) (args : Json) (name : String) (default : Nat) :
    FailsOnly (IsRefusal brickId) (count brickId args name default) := by
  unfold count
  split
  · exact .ok _
  · exact .ok _
  · split
    · exact .ok _
    · exact .error ⟨_, _, rfl⟩

end Arguments

namespace Brick

open Arguments Error

theorem refuses_select (args : Json) (condition : Bool) :
    FailsOnly (IsRefusal Branch.id) (Branch.select args condition) := by
  unfold Branch.select
  split
  · exact .map _ (refuses_subPipeline _ _ _)
  · exact refuses_subPipeline? _ _ _

theorem refuses_loop (args : Json) : FailsOnly (IsRefusal Loop.id) (Loop.arguments args) := by
  unfold Loop.arguments
  refine .bind (refuses_subPipeline _ _ _) fun _ => .bind (refuses_keyArgument _ _ _ _) fun _ => ?_
  split
  · exact .ok _
  · exact .error ⟨_, _, rfl⟩

theorem refuses_containment (args : Json) :
    FailsOnly (IsRefusal Containment.id) (Containment.arguments args) :=
  .bind (refuses_subPipeline _ _ _) fun _ => .bind (refuses_subPipeline? _ _ _) fun _ =>
    .bind (refuses_keyArgument _ _ _ _) fun _ => .ok _

theorem refuses_policy (args : Json) :
    FailsOnly (IsRefusal Repetition.id) (Repetition.policy args) := by
  refine .bind (refuses_count _ _ _ _) fun _ => ?_
  split
  · exact .ok _
  · exact .ok _
  · exact .error ⟨_, _, rfl⟩

theorem refuses_repetition (args : Json) :
    FailsOnly (IsRefusal Repetition.id) (Repetition.arguments args) :=
  .bind (refuses_subPipeline _ _ _) fun _ => .bind (refuses_count _ _ _ _) fun _ =>
    .bind (refuses_policy args) fun _ => .ok _

/-- A refusal has no context layer. -/
theorem raisesPlain_refusal {brickId : BrickId} {error : Error} (h : error.IsRefusal brickId)
    (met : List Error) : (Routine.done (.error error) : Routine σ _).RaisesPlain met := by
  intro hc
  rw [h.plain] at hc
  cases hc

/-- Running a sub-pipeline and answering as it does. -/
theorem raisesPlain_call (sub : SubPipeline) (bindings : List (String × Json))
    (met : List Error) : (Routine.call sub bindings .done : Routine σ _).RaisesPlain met :=
  ⟨fun _ => trivial, fun _ _ => List.mem_cons_self⟩

theorem raisesPlain_ifElse : (ifElse : Brick σ).RaisesPlain := by
  intro args access
  show (Branch.run args).RaisesPlain []
  unfold Branch.run
  simp only [Routine.RaisesPlain]
  split
  · rename_i error he
    exact raisesPlain_refusal (refuses_select _ _ error he) []
  · trivial
  · exact raisesPlain_call _ _ []

theorem raisesPlain_each (body : SubPipeline) (key : String) (elements : List Json)
    (index : Nat) (last : Json) (met : List Error) :
    (Loop.each body key elements index last : Routine σ _).RaisesPlain met := by
  induction elements generalizing index last met with
  | nil => trivial
  | cons element rest ih => exact ⟨fun value => ih _ _ _, fun _ _ => List.mem_cons_self⟩

theorem raisesPlain_forEach : (forEach : Brick σ).RaisesPlain := by
  intro args access
  show (Loop.run args).RaisesPlain []
  unfold Loop.run
  split
  · rename_i error he
    exact raisesPlain_refusal (refuses_loop args error he) []
  · exact raisesPlain_each _ _ _ _ _ []

theorem raisesPlain_tryExcept : (tryExcept : Brick σ).RaisesPlain := by
  intro args access
  show (Containment.run args).RaisesPlain []
  unfold Containment.run
  split
  · rename_i error he
    exact raisesPlain_refusal (refuses_containment args error he) []
  · rename_i attempt handler key _
    refine ⟨fun _ => trivial, fun error => ?_⟩
    cases handler with
    | none => trivial
    | some sub => exact raisesPlain_call sub [(key, error.toJson)] [error]

theorem raisesPlain_remaining (body : SubPipeline) (policy : Backoff) (label : String)
    (maxAttempts spare failures : Nat) (met : List Error) :
    (Attempts.remaining (Repetition.attempt body) policy label maxAttempts spare failures :
      Routine σ _).RaisesPlain met := by
  induction spare generalizing failures met with
  | zero =>
    unfold Attempts.remaining Repetition.attempt
    dsimp only
    split <;> exact ⟨fun _ => trivial, fun _ _ => List.mem_cons_self⟩
  | succ spare ih =>
    unfold Attempts.remaining Repetition.attempt
    dsimp only
    split <;> exact ⟨fun _ => trivial, fun error => ih _ (error :: met)⟩

theorem raisesPlain_retry : (retry : Brick σ).RaisesPlain := by
  intro args access
  show (Repetition.run args).RaisesPlain []
  unfold Repetition.run
  split
  · rename_i error he
    exact raisesPlain_refusal (refuses_repetition args error he) []
  · exact raisesPlain_remaining _ _ _ _ _ _ []

end Brick

namespace Registry

/-- No built-in brick puts a context layer on a failure. -/
theorem raisesPlain_standard : (standard : Registry σ).RaisesPlain := by
  refine forall_standard (P := fun _ brick => brick.RaisesPlain) fun brick hm => ?_
  simp only [List.mem_cons, List.not_mem_nil, or_false] at hm
  rcases hm with rfl | rfl | rfl | rfl | rfl | rfl | rfl
  · exact Brick.raisesPlain_ifElse
  · exact Brick.raisesPlain_forEach
  · exact Brick.raisesPlain_tryExcept
  · exact Brick.raisesPlain_retry
  · exact Brick.raisesPlain_identity
  · exact Brick.raisesPlain_throw
  · exact Brick.raisesPlain_log

end Registry
end BrickPipeline
