import BrickPipeline.Proofs.Direct
import BrickPipeline.Proofs.Interpolation
import BrickPipeline.Proofs.Lockstep

/-!
What a run of the third version sees of a service. The record of a service is bound next to its
fields, but no path leads into it and no rendered value holds it, so two runs whose services differ
in their records alone are the same to everybody who watches them.
-/
namespace BrickPipeline

variable {σ : Type}

namespace Json

/-- Values that differ at most in a service record are equal or both objects. -/
theorem eq_or_objects_of_withoutService {first second : Json}
    (h : first.withoutService = second.withoutService) :
    first = second ∨ ∃ fields others, first = .object fields ∧ second = .object others ∧
      Entries.erase serviceKey fields = Entries.erase serviceKey others := by
  cases first with
  | object fields =>
    cases second with
    | object others => exact Or.inr ⟨fields, others, rfl, rfl, Json.object.inj h⟩
    | _ => cases h
  | _ =>
    cases second with
    | object _ => cases h
    | _ => exact Or.inl h

/-- No service record shows in the text of a value. -/
theorem displayText_eq {first second : Json} (h : first.withoutService = second.withoutService) :
    first.displayText = second.displayText := by
  rcases eq_or_objects_of_withoutService h with rfl | ⟨fields, others, rfl, rfl, -⟩
  · rfl
  · exact congrArg Json.render h

end Json

/-- Whether two results are both none, or both values that differ at most in a service record. -/
def SameVisible (first second : Option Json) : Prop :=
  first.map Json.withoutService = second.map Json.withoutService

namespace SameVisible

theorem bind {first second : Option Json} (h : SameVisible first second)
    {next : Json → Option Json}
    (hn : ∀ a b, a.withoutService = b.withoutService → SameVisible (next a) (next b)) :
    SameVisible (first.bind next) (second.bind next) := by
  cases first with
  | none =>
    cases second with
    | none => rfl
    | some _ => cases h
  | some a =>
    cases second with
    | none => cases h
    | some b => exact hn a b (Option.some.inj h)

theorem map_displayText {first second : Option Json} (h : SameVisible first second) :
    first.map Json.displayText = second.map Json.displayText := by
  cases first with
  | none =>
    cases second with
    | none => rfl
    | some _ => cases h
  | some a =>
    cases second with
    | none => cases h
    | some b => exact congrArg some (Json.displayText_eq (Option.some.inj h))

end SameVisible

namespace Path

variable {first second : Json}

theorem atPositions_visible (h : first.withoutService = second.withoutService)
    (positions : List Nat) :
    SameVisible (atPositions first positions) (atPositions second positions) := by
  rcases Json.eq_or_objects_of_withoutService h with rfl | ⟨fields, others, rfl, rfl, -⟩
  · rfl
  · cases positions with
    | nil => exact congrArg some h
    | cons _ _ => rfl

/-- A key other than that of the service record leads to the same value. -/
theorem atKey_eq (h : first.withoutService = second.withoutService) {key : String}
    (hk : key ≠ serviceKey) : atKey first key = atKey second key := by
  rcases Json.eq_or_objects_of_withoutService h with rfl | ⟨fields, others, rfl, rfl, he⟩
  · rfl
  · show Entries.get? key fields = Entries.get? key others
    rw [← Entries.get?_erase_of_ne hk fields, he, Entries.get?_erase_of_ne hk]

theorem step_visible (h : first.withoutService = second.withoutService) (segment : Segment) :
    SameVisible (step true first segment) (step true second segment) := by
  unfold step
  by_cases hk : segment.key = serviceKey
  · simp only [hk, beq_self_eq_true, Bool.and_self, if_true]
    rfl
  · have hv : (true && segment.key == serviceKey) = false := by simpa using hk
    simp only [hv, Bool.false_eq_true, if_false, atKey_eq h hk]
    by_cases he : segment.key.isEmpty = true
    · rw [if_pos he, if_pos he]
      exact atPositions_visible h segment.positions
    · rw [if_neg he, if_neg he]
      rfl

theorem follow_visible (h : first.withoutService = second.withoutService)
    (segments : List Segment) :
    SameVisible (follow true first segments) (follow true second segments) := by
  induction segments generalizing first second with
  | nil => exact congrArg some h
  | cons segment rest ih => exact (step_visible h segment).bind fun _ _ hab => ih hab

end Path

namespace Context

/-- The context without the service records in its bindings. -/
def concealed (ctx : Context) : Context := ⟨Entries.mapValues Json.withoutService ctx.bindings⟩

theorem concealed_bind (ctx : Context) (key : String) (value : Json) :
    (ctx.bind key value).concealed = ctx.concealed.bind key value.withoutService :=
  congrArg Context.mk (Entries.mapValues_insert ..)

theorem concealed_bindAll (ctx : Context) (updates : List (String × Json)) :
    (ctx.bindAll updates).concealed =
      ctx.concealed.bindAll (Entries.mapValues Json.withoutService updates) :=
  congrArg Context.mk (Entries.mapValues_insertAll ..)

theorem get?_visible {first second : Context} (h : first.concealed = second.concealed)
    (key : String) : SameVisible (first.get? key) (second.get? key) := by
  have hg := congrArg (Context.get? · key) h
  simp only [concealed, get?, Entries.get?_mapValues] at hg
  exact hg

end Context

/-- A template that is filled in alike renders alike. -/
theorem Render.templateText_congr {first second : Context} (has : Engine → Bool) (engine : Engine)
    {source : String} (h : Template.interpolate source first.bindings =
      Template.interpolate source second.bindings) :
    templateText (.only has) engine (some source) first =
      templateText (.only has) engine (some source) second := by
  simp only [templateText, Renderers.render, Renderers.only]
  cases has engine with
  | false => rfl
  | true => simp only [if_true, h]

/-! Contexts that differ in service records alone render every explicit config value alike. -/

section

variable {first second : Context} (h : first.concealed = second.concealed)

include h

theorem Path.getVisible?_visible (path : String) :
    SameVisible (getVisible? first.bindings path) (getVisible? second.bindings path) := by
  unfold getVisible?
  cases segments path with
  | nil => rfl
  | cons head rest =>
    exact (Context.get?_visible h head.key).bind fun _ _ hab =>
      (atPositions_visible hab head.positions).bind fun _ _ hcd => follow_visible hcd rest

theorem Template.render_eq (piece : Piece) :
    piece.render first.bindings = piece.render second.bindings := by
  cases piece with
  | text _ => rfl
  | comment _ _ => rfl
  | lookup _ _ path =>
    simp only [Piece.render, (Path.getVisible?_visible h path).map_displayText]

theorem Template.interpolate_eq (template : String) :
    interpolate template first.bindings = interpolate template second.bindings := by
  have hp : renderPieces first.bindings = renderPieces second.bindings := by
    funext pieces
    rw [renderPieces, renderPieces, funext (render_eq h)]
  rw [interpolate_eq_parse, interpolate_eq_parse, hp]

namespace Render

theorem variableValue_eq (path : Option String) :
    variableValue path first = variableValue path second := by
  cases path with
  | none => rfl
  | some path =>
    have hp := Path.getVisible?_visible h path
    exact congrArg (·.getD .null) hp

theorem templateText_eq (has : Engine → Bool) (engine : Engine) (source : Option String) :
    templateText (.only has) engine source first =
      templateText (.only has) engine source second := by
  cases source with
  | none => rfl
  | some source => exact templateText_congr has engine (Template.interpolate_eq h source)

end Render

end

namespace Render

variable {first second : Context} (has : Engine → Bool)

mutual

theorem explicit_eq (h : first.concealed = second.concealed) : ∀ config,
    explicit (.only has) first config = explicit (.only has) second config
  | .literal _ => rfl
  | .template engine source => templateText_eq h has engine source
  | .var path => congrArg Except.ok (variableValue_eq h path)
  | .pipeline _ _ => rfl
  | .defer _ => rfl
  | .array items => congrArg (Json.array <$> ·) (explicitItems_eq h items)
  | .object entries => congrArg (Json.object <$> ·) (explicitEntries_eq h entries)

theorem explicitItems_eq (h : first.concealed = second.concealed) : ∀ items,
    explicitItems (.only has) first items = explicitItems (.only has) second items
  | [] => rfl
  | item :: rest => by
    rw [explicitItems, explicitItems, explicit_eq h item, explicitItems_eq h rest]

theorem explicitEntries_eq (h : first.concealed = second.concealed) : ∀ entries,
    explicitEntries (.only has) first entries = explicitEntries (.only has) second entries
  | [] => rfl
  | (key, value) :: rest => by
    rw [explicitEntries, explicitEntries, explicit_eq h value, explicitEntries_eq h rest]

end

end Render

/-- Before its brick runs, a step of the third version meets the same decisions. -/
theorem Host.prepare_eq {first second : Context} (h : first.concealed = second.concealed)
    (host : Host σ) {has : Engine → Bool} (renders : host.renderers = .only has)
    (step : Step) (running value : Json) :
    host.prepare .v3 step first running = host.prepare .v3 step second value := by
  have hc : host.holds .explicit first step = host.holds .explicit second step := by
    unfold holds
    cases step.condition with
    | none => rfl
    | some condition => simp only [Render.value, renders, Render.explicit_eq has h]
  have ha : host.prepareArguments .explicit first step =
      host.prepareArguments .explicit second step := by
    unfold prepareArguments
    simp only [Render.arguments, renders, Render.explicitEntries_eq has h]
  unfold prepare
  simp only [ApiVersion.renderMode, renderContext, hc, ha]

namespace Error

/-- The failure without the bindings in its context layers. -/
def withoutBindings : Error → Error
  | .context brickId _ alerted source => .context brickId [] alerted (withoutBindings source)
  | error => error

/-- Failures that differ at most in the bindings of their context layers. -/
def SameButBindings (first second : Error) : Prop :=
  first.withoutBindings = second.withoutBindings

theorem withoutBindings_eq (error : Error) :
    error.withoutBindings = error.mapLayers fun _ alerted => ([], alerted) := by
  induction error with
  | context brickId _ alerted _ ih => exact congrArg (Error.context brickId [] alerted) ih
  | _ => rfl

@[simp] theorem isContext_withoutBindings (error : Error) :
    error.withoutBindings.isContext = error.isContext := by
  rw [withoutBindings_eq, isContext_mapLayers]

@[simp] theorem isAlerted_withoutBindings (error : Error) :
    error.withoutBindings.isAlerted = error.isAlerted := by
  cases error <;> rfl

theorem sameReport_sameButBindings : SameReport SameButBindings := by
  have heq : SameButBindings = fun first second =>
      first.mapLayers (fun _ alerted => ([], alerted)) =
        second.mapLayers fun _ alerted => ([], alerted) := by
    funext first second
    rw [SameButBindings, withoutBindings_eq, withoutBindings_eq]
  rw [heq]
  exact sameReport_mapLayers _

end Error

namespace Host

open Error

variable {first second : Error} (h : SameButBindings first second)

include h

theorem wrap_same (step : Step) (ctx other : Context) :
    SameButBindings (wrap step ctx first) (wrap step other second) := by
  have hc : first.isContext = second.isContext := by
    rw [← isContext_withoutBindings first, h, isContext_withoutBindings]
  unfold wrap
  rw [hc]
  split
  · exact h
  · exact congrArg (Error.context step.id [] false) h

theorem markAlerted_same : SameButBindings (markAlerted first) (markAlerted second) := by
  cases first with
  | context _ _ _ _ =>
    cases second with
    | context _ _ _ _ =>
      simp only [SameButBindings, withoutBindings, Error.context.injEq] at h
      obtain ⟨rfl, -, -, hs⟩ := h
      exact congrArg (Error.context _ [] true) hs
    | _ => cases h
  | _ =>
    cases second with
    | context _ _ _ _ => cases h
    | _ => exact h

theorem alertFor?_same {info twin : RunInfo} (hr : info.runId = twin.runId)
    (hd : info.deploymentId = twin.deploymentId) (step : Step) :
    alertFor? info step first = alertFor? twin step second := by
  have ha : first.isAlerted = second.isAlerted := by
    rw [← isAlerted_withoutBindings first, h, isAlerted_withoutBindings]
  unfold alertFor?
  rw [ha, hr, hd, sameReport_sameButBindings.toJson _ _ h]

/-- A step fails alike, whatever is bound when it fails. -/
theorem fail_same (host : Host σ) {info twin : RunInfo} (hr : info.runId = twin.runId)
    (hd : info.deploymentId = twin.deploymentId) (step : Step) (index : Nat)
    (ctx other : Context) (args : Json) :
    Exec.Alike (fun _ => true) (AlikeResult SameButBindings)
      (host.fail info step index ctx args first) (host.fail twin step index other args second) := by
  have hw := wrap_same h step ctx other
  -- Whatever happened before, the last thing is the record of the step.
  have hlast : ∀ e f, SameButBindings e f →
      Exec.Alike (fun _ => true) (AlikeResult SameButBindings)
        ((Exec.emit (.trace (record info step index args (.error e.toJson))) : Exec σ Unit).bind
          fun _ => pure (.error e : Except Error (Option Json)))
        ((Exec.emit (.trace (record twin step index args (.error f.toJson)))).bind
          fun _ => pure (.error f)) := by
    intro e f hef
    rw [record, record, hr, sameReport_sameButBindings.toJson _ _ hef]
    exact Exec.alike_bind_same fun _ => Exec.alike_done (.error hef)
  unfold fail
  dsimp only [Exec.bind_eq]
  rw [failedEntry, failedEntry, sameReport_sameButBindings.message _ _ hw, alertFor?_same hw hr hd]
  refine Exec.alike_bind_same fun _ => ?_
  cases alertFor? twin step (wrap step other second) with
  | none => exact hlast _ _ hw
  | some alert => exact Exec.alike_bind_same fun _ => hlast _ _ (markAlerted_same hw)

end Host

/-- Whether the brick makes the same requests and answers alike whatever else it may use, as long as
the sub-pipelines that it runs are answered alike. -/
def Brick.ReadsOnlyArguments (brick : Brick σ) : Prop :=
  ∀ args access other, (brick.run args access).Alike Error.SameButBindings (brick.run args other)

namespace BoundServices

/-- The services without their records. -/
def publicFields (services : BoundServices) : Entries (Entries Json) :=
  Entries.mapValues BoundService.fields services.entries

/-- No more of a service is bound outside its record than its fields. -/
theorem withoutService_bindings (services : BoundServices) :
    Entries.mapValues Json.withoutService services.bindings =
      Entries.mapValues (fun fields => .object (Entries.erase serviceKey fields))
        services.publicFields := by
  simp only [publicFields, bindings, Entries.mapValues, List.map_map]
  refine List.map_congr_left fun entry _ => ?_
  simp only [Function.comp, BoundService.toValue, Json.withoutService, Entries.erase_insert]

end BoundServices

/-- The contexts of two runs are the same but for the records of their services. -/
theorem RunSettings.concealed_context (settings : RunSettings) {services : BoundServices}
    (agree : settings.services.publicFields = services.publicFields) (input : Json) :
    (settings.context input).concealed =
      ({ settings with services }.context input : Context).concealed := by
  unfold context
  rw [Context.concealed_bindAll, Context.concealed_bindAll,
    BoundServices.withoutService_bindings, BoundServices.withoutService_bindings, agree]

namespace Host

open Error

/-- Contexts that are the same but for records of services are prepared to the same effect in the
third version, and bricks that read only their arguments do the same in them. -/
theorem lockstep_concealed (host : Host σ) {has : Engine → Bool}
    (renders : host.renderers = .only has)
    (reads : ∀ id brick, host.registry.get? id = some brick →
      Registry.standard.get? id = some brick ∨ brick.ReadsOnlyArguments)
    {info twin : RunInfo} (hr : info.runId = twin.runId)
    (hd : info.deploymentId = twin.deploymentId) (hv : info.apiVersion = .v3)
    (ht : twin.apiVersion = .v3) :
    Lockstep host host info twin (fun first second => first.concealed = second.concealed)
      (fun _ _ => True) SameButBindings (fun _ => true) where
  runId := hr
  near_refl := fun _ => rfl
  near_bind := fun first second key value h => by
    rw [Context.concealed_bind, Context.concealed_bind, h]
  carried_refl := fun _ => trivial
  carried_input := fun _ _ _ => trivial
  like_refl := sameReport_sameButBindings.refl
  prepare := fun step first second running value h _ => by
    rw [hv, ht]
    exact host.prepare_eq h renders step running value
  fail := fun step index first second args _ _ _ h =>
    fail_same h host hr hd step index first second args
  routine := fun step brick args first second hb _ => by
    rcases reads _ _ hb with hs | hr
    · exact Registry.alike_standard sameReport_sameButBindings _ _ hs _ _ _
    · exact hr _ _ _

/-- Runs in lockstep that log and fail alike end alike. -/
theorem run_alike {host : Host σ} {settings twin : RunSettings} {near : Context → Context → Prop}
    {carried : Json → Json → Prop}
    (lockstep : Lockstep host host settings.toRunInfo twin.toRunInfo near carried SameButBindings
      fun _ => true)
    (hd : settings.deploymentId = twin.deploymentId) (hv : settings.apiVersion = twin.apiVersion)
    (depth : Nat) (steps : Pipeline) (input : Json)
    (hctx : near (settings.context input) (twin.context input)) :
    Exec.Alike (fun _ => true) (AlikeResult SameButBindings)
      (host.run depth steps input settings) (host.run depth steps input twin) := by
  unfold run
  rw [startedEntry, startedEntry, hd, hv]
  refine Exec.alike_bind_same fun _ =>
    (lockstep.runPipeline depth steps hctx).bind fun answer result h => ?_
  have he : endedEntry answer = endedEntry result := by
    cases h with
    | ok value => rfl
    | error alike =>
      rw [endedEntry, endedEntry, sameReport_sameButBindings.message _ _ alike]
  rw [he]
  exact Exec.alike_bind_same fun _ => Exec.alike_done h

end Host

/-- A run of the third version keeps the records of its services to itself. If every brick is a
built-in one or reads only its arguments, two runs whose services have the same fields under the
same keys, whatever their records, log, record and send the same, leave the same state, and end
with the same value or with failures that are the same as data. -/
theorem Host.run_conceals (host : Host σ) {has : Engine → Bool}
    (renders : host.renderers = .only has)
    (reads : ∀ id brick, host.registry.get? id = some brick →
      Registry.standard.get? id = some brick ∨ brick.ReadsOnlyArguments)
    (depth : Nat) (steps : Pipeline) (input : Json) (settings : RunSettings)
    (v3 : settings.apiVersion = .v3) (services : BoundServices)
    (agree : settings.services.publicFields = services.publicFields) (state : σ) :
    let ran := host.run depth steps input settings state
    let other := host.run depth steps input { settings with services } state
    ran.events = other.events ∧ ran.state = other.state ∧
      Option.Rel (AlikeResult fun first second => first.toJson = second.toJson)
        ran.answer other.answer := by
  let twin : RunSettings := { settings with services }
  have lockstep : Lockstep host host settings.toRunInfo twin.toRunInfo
      (fun first second => first.concealed = second.concealed) (fun _ _ => True)
      Error.SameButBindings (fun _ => true) :=
    host.lockstep_concealed renders reads rfl rfl v3 v3
  have hctx := settings.concealed_context agree input
  obtain ⟨events, left, answer⟩ := run_alike lockstep rfl rfl depth steps input hctx state
  rw [List.filter_eq_self.2 fun _ _ => rfl, List.filter_eq_self.2 fun _ _ => rfl] at events
  refine ⟨events, left, ?_⟩
  generalize (host.run depth steps input settings state).answer = first,
    (host.run depth steps input twin state).answer = second at answer
  cases answer with
  | none => exact .none
  | some h =>
    refine .some ?_
    cases h with
    | ok value => exact .ok value
    | error alike => exact .error (Error.sameReport_sameButBindings.toJson _ _ alike)

namespace Sample

/-- One service with a public field, bound as `@api`. -/
def services (id : String) : BoundServices :=
  ⟨[("@api", .new "api" ⟨id, "example", some id, [("url", .string "here")], [], false⟩)]⟩

def settings (services : BoundServices) : RunSettings := { RunSettings.new .v3 with services }

/-- Both steps ask for the record of the service, the second in vain and to fail. -/
def lookups : Pipeline :=
  [(Step.new (Brick.identity : Brick Unit).id).withArg "api" (.var (some "@api")),
    (Step.new (Brick.throw : Brick Unit).id).withArg "message"
      (.template .mustache
        (some "no \x7b\x7b @api.__service.id \x7d\x7d at \x7b\x7b @api.url \x7d\x7d"))]

end Sample

theorem Host.run_conceals_sample :
    Sample.services "first" ≠ Sample.services "second" ∧
      (Sample.services "first").publicFields = (Sample.services "second").publicFields ∧
      let ran :=
        Sample.host.run 1 Sample.lookups .null (Sample.settings (Sample.services "first")) ()
      let other :=
        Sample.host.run 1 Sample.lookups .null (Sample.settings (Sample.services "second")) ()
      ran.events = other.events ∧ ran.state = other.state ∧
        Option.Rel (AlikeResult fun first second => first.toJson = second.toJson)
          ran.answer other.answer :=
  ⟨fun h => by simp [Sample.services, BoundService.new, Service.withoutSecrets] at h, rfl,
    Sample.host.run_conceals (rfl : _ = Renderers.only fun _ => true) (fun _ _ hb => Or.inl hb) 1
      Sample.lookups .null (Sample.settings (Sample.services "first")) rfl
      (Sample.services "second") rfl ()⟩

end BrickPipeline
