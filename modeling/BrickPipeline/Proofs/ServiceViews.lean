import BrickPipeline.Proofs.BarePaths
import BrickPipeline.Proofs.ReservedKeys
import BrickPipeline.Proofs.Resolution

/-!
What a document sees of a bound service. Its binding holds the public fields and, under a hidden
key, a record of the service without its secrets. Explicit documents read the fields, implicit ones
the record, and both read a single field alike.
-/
namespace BrickPipeline

variable {σ : Type}

/-! The two readings of a binding. -/

namespace Entries

variable {α : Type}

/-- Nothing is erased with a key that is not bound. -/
theorem erase_of_get?_eq_none {key : String} {entries : Entries α} (h : get? key entries = none) :
    erase key entries = entries := by
  refine List.filter_eq_self.2 fun entry hm => ?_
  have hcontains : contains entry.1 entries = true := contains_iff.2 ⟨entry.2, hm⟩
  have hne : entry.1 ≠ key := by
    rintro rfl
    rw [contains, h] at hcontains
    cases hcontains
  exact decide_eq_true hne

end Entries

theorem Json.withoutService_of_get?_eq_none {value : Json} (h : value.get? serviceKey = none) :
    value.withoutService = value := by
  cases value with
  | object fields => exact congrArg Json.object (Entries.erase_of_get?_eq_none h)
  | _ => rfl

namespace Service

variable {service : Service} {field : String}

/-- Whether nothing in a config looks like the record of a service: no field has the hidden key, nor
has a field in it. -/
def Unhidden (service : Service) : Prop :=
  ∀ entry ∈ service.config, entry.1 ≠ serviceKey ∧ entry.2.get? serviceKey = none

/-- Whether fields are what a service discloses of its config: those of its fields that are not
secret, as they stand there. -/
structure Discloses (service : Service) (fields : Entries Json) : Prop where
  sublist : fields.Sublist service.config
  get? : ∀ field, Entries.get? field fields =
    if field ∈ service.secretFields then none else Entries.get? field service.config

/-- A field of a service as documents see it: null if it is secret or missing. -/
def shown (service : Service) (field : String) : Json :=
  if field ∈ service.secretFields then .null else (Entries.get? field service.config).getD .null

theorem isSecret_iff (service : Service) (field : String) :
    service.isSecret field = true ↔ field ∈ service.secretFields := List.contains_iff_mem

theorem discloses_publicConfig (service : Service) :
    service.Discloses service.publicConfig where
  sublist := List.filter_sublist
  get? := fun field => by
    rw [publicConfig, Entries.get?_filter fun key => !service.isSecret key]
    simp only [← isSecret_iff]
    cases service.isSecret field <;> rfl

/-- A config in key order has one list of such fields. -/
theorem Discloses.unique (sorted : Entries.Sorted service.config) {fields others : Entries Json}
    (first : service.Discloses fields) (second : service.Discloses others) : fields = others := by
  refine Entries.ext_of_sorted (Entries.sorted_sublist sorted first.sublist)
    (Entries.sorted_sublist sorted second.sublist) fun key => ?_
  rw [first.get?, second.get?]

theorem shown_eq (service : Service) (field : String) :
    service.shown field = (Entries.get? field service.publicConfig).getD .null := by
  rw [shown, service.discloses_publicConfig.get?]
  split <;> rfl

theorem Unhidden.publicConfig (unhidden : service.Unhidden) :
    ∀ entry ∈ service.publicConfig, entry.1 ≠ serviceKey ∧ entry.2.get? serviceKey = none :=
  fun entry hm => unhidden entry (List.mem_of_mem_filter hm)

theorem Unhidden.erase_publicConfig (unhidden : service.Unhidden) :
    Entries.erase serviceKey service.publicConfig = service.publicConfig :=
  List.filter_eq_self.2 fun entry hm => decide_eq_true (unhidden.publicConfig entry hm).1

end Service

/-- What is found stands for the record that it holds, or else for itself. -/
theorem Path.getService_of_get? {bindings : Entries Json} {path : String} {value : Json}
    (h : get? bindings path = some value) :
    getService bindings path = (value.get? serviceKey).getD value := by
  rw [getService, h]
  cases value <;> rfl

namespace Render

variable {service : Service} {outputKey key field : String} {ctx : Context}
  (bare : Path.Bare key)
  (bound : ctx.get? key = some (BoundService.new outputKey service).toValue)

include bare bound

/-- A bare text is the record of the service that is bound under it. -/
theorem literal_service (renderers : Renderers) (engine : Engine) :
    literal renderers engine (.string key) ctx =
      .ok { service with config := service.publicConfig }.toJson := by
  have hsimple : Path.isSimple key ctx.bindings = true := by
    rw [bare.isSimple_one]
    exact Option.isSome_of_eq_some bound
  have hfound : Path.get? ctx.bindings key = some (BoundService.new outputKey service).toValue :=
    (bare.resolve_one false ctx.bindings).trans bound
  have hrecord : (BoundService.new outputKey service).toValue.get? serviceKey =
      some service.withoutSecrets.toJson := Entries.get?_insert_self ..
  rw [literal, if_pos hsimple, Path.getService_of_get? hfound, hrecord]
  rfl

/-- A variable is the public fields of the service that is bound under it. -/
theorem variableValue_service (unhidden : service.Unhidden) :
    variableValue (some key) ctx = .object service.publicConfig := by
  have hfound : Path.getVisible? ctx.bindings key =
      some (BoundService.new outputKey service).toValue :=
    (bare.resolve_one true ctx.bindings).trans bound
  have hfields : (BoundService.new outputKey service).toValue.withoutService =
      .object service.publicConfig :=
    congrArg Json.object ((Entries.erase_insert ..).trans unhidden.erase_publicConfig)
  rw [variableValue, hfound]
  exact hfields

variable (bareField : Path.Bare field) (visible : field ≠ serviceKey)

include bareField visible

/-- Both readers find a field among the public ones. -/
theorem resolve_field (visibleOnly : Bool) :
    Path.resolve visibleOnly ctx.bindings (Path.segments (key ++ "." ++ field)) =
      Entries.get? field service.publicConfig :=
  (bare.resolve_two bareField visible visibleOnly bound).trans
    (Entries.get?_insert_of_ne visible _ _)

theorem variableValue_field (unhidden : service.Unhidden) :
    variableValue (some (key ++ "." ++ field)) ctx = service.shown field := by
  have hfound := resolve_field bare bound bareField visible true
  rw [variableValue, Path.getVisible?, hfound, Service.shown_eq]
  cases hf : Entries.get? field service.publicConfig with
  | none => rfl
  | some value =>
    have hidden := (unhidden.publicConfig _ (Entries.mem_of_get? hf)).2
    exact Json.withoutService_of_get?_eq_none hidden

theorem literal_field (unhidden : service.Unhidden) (renderers : Renderers) (engine : Engine) :
    literal renderers engine (.string (key ++ "." ++ field)) ctx = .ok (service.shown field) := by
  have hsimple : Path.isSimple (key ++ "." ++ field) ctx.bindings = true := by
    rw [bare.isSimple_two bareField]
    exact Option.isSome_of_eq_some bound
  have hfound : Path.get? ctx.bindings (key ++ "." ++ field) =
      Entries.get? field service.publicConfig := resolve_field bare bound bareField visible false
  have hvalue : Path.getService ctx.bindings (key ++ "." ++ field) = service.shown field := by
    rw [Service.shown_eq]
    cases hf : Entries.get? field service.publicConfig with
    | none =>
      rw [hf] at hfound
      rw [Path.getService, hfound]
      rfl
    | some value =>
      rw [hf] at hfound
      have hidden := (unhidden.publicConfig _ (Entries.mem_of_get? hf)).2
      rw [Path.getService_of_get? hfound, hidden]
      rfl
  rw [literal, if_pos hsimple, hvalue]

end Render

/-! A binding on its way through a run. -/

namespace Context

/-- Whether a value is bound under a key, in a context that is in key order. -/
structure Carries (ctx : Context) (key : String) (value : Json) : Prop where
  sorted : ctx.bindings.Sorted
  bound : ctx.get? key = some value

namespace Carries

variable {ctx : Context} {key : String} {value : Json}

theorem bind_of_ne (carries : ctx.Carries key value) {other : String} (h : other ≠ key)
    (content : Json) : (ctx.bind other content).Carries key value where
  sorted := Entries.sorted_insert other content carries.sorted
  bound := (get?_bind_of_ne ctx (Ne.symm h) content).trans carries.bound

theorem bindAll (carries : ctx.Carries key value) {bindings : List (String × Json)}
    (h : ∀ binding ∈ bindings, binding.1 ≠ key) : (ctx.bindAll bindings).Carries key value where
  sorted := Entries.sorted_insertAll carries.sorted bindings
  bound := by rw [get?_bindAll, rebound_of_forall_ne _ h, carries.bound]

/-- Fields that are spread beneath the bindings do not get in their way. -/
theorem get?_withFallback (carries : ctx.Carries key value) (running : Json) :
    (ctx.withFallback running).get? key = some value := by
  cases running with
  | object fields =>
    have hm : (key, value) ∈ ctx.bindings := Entries.mem_of_get? carries.bound
    exact Entries.get?_insertAll_of_mem carries.sorted.nodup hm fields
  | _ => exact carries.bound

theorem get?_renderContext (carries : ctx.Carries key value) (mode : RenderMode) (running : Json) :
    (Host.renderContext mode ctx running).get? key = some value := by
  cases mode with
  | explicit => exact carries.bound
  | implicit _ => exact carries.get?_withFallback running

end Carries
end Context

namespace Host

variable {host : Host σ} {info : RunInfo} {nested : Runner σ} {key : String} {value : Json}

/-- The key under which a step has bound the value that it left, if it has. -/
def boundOutput? (host : Host σ) (info : RunInfo) (nested : Runner σ) (visit : Visit σ) :
    Option String := do
  let _ ← host.value? info nested visit
  bindingKey <$> visit.step.outputKey

/-- A step is reached with a key as its scope started with it if no step before it binds the key. -/
def ReachedSparing (host : Host σ) (info : RunInfo) (nested : Runner σ) (scope : Call σ)
    (key : String) (visit : Visit σ) : Prop :=
  ∃ earlier later, host.scope info nested scope = earlier ++ visit :: later ∧
    ∀ before ∈ earlier, host.boundOutput? info nested before ≠ some key

/-- The scopes of a run that are entered with a key as the run started with it: from no captured
environment, and without a binding of the key, be it by a step before or by the way in. -/
inductive EntersSparing (host : Host σ) (info : RunInfo) (depth : Nat) (call : Call σ)
    (key : String) : Nat → Call σ → Prop where
  | here : EntersSparing host info depth call key depth call
  | deeper {left : Nat} {outer inner : Call σ} {visit : Visit σ}
    (entered : EntersSparing host info depth call key (left + 1) outer)
    (reached : host.ReachedSparing info (host.runPipeline info left) outer key visit)
    (asked : inner ∈ host.calls info (host.runPipeline info left) visit)
    (inPlace : inner.sub.environment = none)
    (kept : ∀ binding ∈ inner.bindings, binding.1 ≠ key) :
    EntersSparing host info depth call key left inner

theorem contextAfter_carries {ctx : Context} (carries : ctx.Carries key value) {visit : Visit σ}
    (h : host.boundOutput? info nested visit ≠ some key) :
    (contextAfter visit.step ctx (host.value? info nested visit)).Carries key value := by
  unfold contextAfter
  split
  · rename_i content outputKey hvalue hkey
    refine carries.bind_of_ne (fun he => h ?_) content
    rw [boundOutput?, hvalue, hkey]
    exact congrArg some he
  · exact carries

/-- The first step of a scope is reached so. -/
theorem reachedSparing_of_head? {scope : Call σ} {visit : Visit σ}
    (h : (host.scope info nested scope).head? = some visit) :
    host.ReachedSparing info nested scope key visit := by
  obtain ⟨later, hscope⟩ := List.head?_eq_some_iff.1 h
  exact ⟨[], later, hscope, nofun⟩

/-- A step that is reached so finds the value that the scope started with. -/
theorem ReachedSparing.carries {scope : Call σ} {visit : Visit σ}
    (reached : host.ReachedSparing info nested scope key visit)
    (carries : scope.context.Carries key value) : visit.context.Carries key value := by
  obtain ⟨earlier, later, hscope, hearlier⟩ := reached
  rw [host.scope_context info nested scope hscope]
  clear hscope
  generalize scope.context = ctx at carries
  induction earlier generalizing ctx with
  | nil => exact carries
  | cons before rest ih =>
    obtain ⟨hbefore, hrest⟩ := List.forall_mem_cons.1 hearlier
    exact ih hrest _ (contextAfter_carries carries hbefore)

/-- And a scope that is entered so starts with the value that the run started with. -/
theorem EntersSparing.carries {depth left : Nat} {call scope : Call σ}
    (entered : host.EntersSparing info depth call key left scope)
    (carries : call.context.Carries key value) : scope.context.Carries key value := by
  induction entered with
  | here => exact carries
  | @deeper left outer inner visit _ reached asked inPlace kept ih =>
    have hcaller : inner.caller.Carries key value := by
      rw [host.caller_of_mem_stepCalls info _ asked]
      exact reached.carries ih
    have hcontext : inner.context = inner.caller.bindAll inner.bindings := by
      rw [Call.context, inPlace]
      rfl
    rw [hcontext]
    exact hcaller.bindAll kept

/-- Whether a call runs in place and makes no binding under a key. -/
def spares (key : String) (call : Call σ) : Bool :=
  call.sub.environment.isNone && call.bindings.all fun binding => binding.1 != key

/-- The first step of a call that the first step of a scope asks for, if that call makes no binding
under the key. -/
theorem exists_entersSparing_of_any (key : String) {depth : Nat} {scope : Call σ}
    (h : ((host.scope info (host.runPipeline info (depth + 1)) scope).head?.any fun visit =>
      (host.calls info (host.runPipeline info (depth + 1)) visit).any fun call =>
        spares key call && (host.scope info (host.runPipeline info depth) call).head?.isSome) =
          true) :
    ∃ call visit, host.EntersSparing info (depth + 2) scope key (depth + 1) call ∧
      (host.scope info (host.runPipeline info depth) call).head? = some visit := by
  obtain ⟨first, hfirst, hasked⟩ := (Option.any_eq_true _ _).1 h
  obtain ⟨call, asked, hcall⟩ := List.any_eq_true.1 hasked
  obtain ⟨hspares, hvisit⟩ := Bool.and_eq_true_iff.1 hcall
  obtain ⟨visit, hvisit⟩ := Option.isSome_iff_exists.1 hvisit
  obtain ⟨inPlace, kept⟩ := Bool.and_eq_true_iff.1 hspares
  refine ⟨call, visit, .deeper .here (reachedSparing_of_head? hfirst) asked
    (Option.isNone_iff_eq_none.1 inPlace) fun binding hm => ?_, hvisit⟩
  exact bne_iff_ne.1 (List.all_eq_true.1 kept binding hm)

end Host

/-- A run starts with every service that is bound for it under its key. -/
theorem RunSettings.carries_context {settings : RunSettings}
    (sorted : settings.services.entries.Sorted) {outputKey : String} {entry : BoundService}
    (h : settings.services.get? outputKey = some entry) (input : Json) :
    (settings.context input).Carries (bindingKey outputKey) entry.toValue where
  sorted := Entries.sorted_insertAll (Entries.sorted_ofList _) _
  bound := by
    have hkeys : Entries.keys settings.services.bindings = Entries.keys settings.services.entries :=
      List.map_map
    have hm : (bindingKey outputKey, entry.toValue) ∈ settings.services.bindings :=
      List.mem_map_of_mem (Entries.mem_of_get? h)
    exact Entries.get?_insertAll_of_mem (hkeys ▸ sorted.nodup) hm _

theorem ApiVersion.renderMode_of_ne_v3 {version : ApiVersion} (h : version ≠ .v3)
    (engine : Option Engine) :
    version.renderMode engine = .implicit (engine.getD .mustache) := by
  cases version with
  | v3 => exact absurd rfl h
  | _ => rfl

/-- What a document sees of a service. If the lint passes it and its services are bound, then each
of its dependencies has come to a service, which discloses the fields of its config that are not
secret. Say that the key of the dependency is an identifier, and that nothing in the config looks
like a record of a service. Then every step of the run that finds the binding as the run started
with it, which is as long as neither a captured environment nor another binding of the key has come
in between, reads the same. A variable, which is how documents of the third version read, is the
disclosed fields; a bare text in the other versions is the whole service, with these fields for its
config and all else as it is. With a field behind the key, both are that field, or null if it is
secret or missing. The value that is carried on makes no difference, although its fields lie beneath
the bindings. -/
theorem Host.runDocument_services {L : Type} [Locator L] (host : Host σ) {document : Document}
    {diagnostics : List Diagnostic}
    (valid : Lint.check host.registry document = .ok diagnostics) {locator : L}
    {services : BoundServices}
    (bound : (Locator.bindAll locator document.dependencies).answer = .ok services)
    {dependency : Dependency} (declared : dependency ∈ document.dependencies)
    (named : Lint.isOutputKey dependency.outputKey = true) (input : Json) (state : σ) :
    let info := (document.settings services).toRunInfo
    let call := document.call services input state
    let key := dependency.bindingKey
    (∀ depth, ((host.runDocument depth document input locator).2 state).answer =
        (call.run (host.runPipeline info depth)).answer) ∧
      ∃ service fields, Locator.Located locator dependency service ∧ service.Discloses fields ∧
        (service.Unhidden → ∀ {depth left : Nat} {scope : Call σ} {visit : Visit σ},
          host.EntersSparing info depth call key (left + 1) scope →
          host.ReachedSparing info (host.runPipeline info left) scope key visit →
          ∀ running,
            let mode := document.apiVersion.renderMode visit.step.templateEngine
            let ctx := renderContext mode visit.context running
            let render := Render.value host.renderers mode ctx
            (render (.var (some key)) = .ok (.object fields) ∧
              ∀ field, Lint.isIdentifier field.toList = true → field ≠ serviceKey →
                render (.var (some (key ++ "." ++ field))) = .ok (service.shown field)) ∧
            (document.apiVersion ≠ .v3 →
              render (.literal (.string key)) = .ok { service with config := fields }.toJson ∧
                ∀ field, Lint.isIdentifier field.toList = true → field ≠ serviceKey →
                  render (.literal (.string (key ++ "." ++ field))) =
                    .ok (service.shown field))) := by
  intro info call key
  refine ⟨fun depth => (host.runDocument_of_bound depth document input bound state).1, ?_⟩
  obtain ⟨service, located, hget⟩ :=
    Locator.get?_of_bindAll bound (Lint.nodup_bindingKey valid) declared
  obtain ⟨entries, hentries⟩ := Locator.exists_ofEntries bound
  have hsorted : services.entries.Sorted := BoundServices.sorted_of_ofEntries hentries
  have bare : Path.Bare key := .bindingKey named
  refine ⟨service, service.publicConfig, located, service.discloses_publicConfig,
    fun unhidden depth left scope visit entered reached running => ?_⟩
  intro mode ctx render
  have hstart : call.context.Carries key
      (BoundService.new dependency.outputKey service).toValue :=
    RunSettings.carries_context hsorted hget input
  have hbound : ctx.get? key = some (BoundService.new dependency.outputKey service).toValue :=
    (reached.carries (entered.carries hstart)).get?_renderContext mode running
  constructor
  · have hrender (path : Option String) :
        render (.var path) = .ok (Render.variableValue path ctx) := by
      show Render.value host.renderers mode _ _ = _
      cases mode <;> rfl
    refine ⟨?_, fun field hfield visible => ?_⟩
    · rw [hrender, Render.variableValue_service bare hbound unhidden]
    · have bareField : Path.Bare field := .of_isIdentifier hfield
      rw [hrender, Render.variableValue_field bare hbound bareField visible unhidden]
  · intro hversion
    have hmode : mode = .implicit (visit.step.templateEngine.getD .mustache) :=
      ApiVersion.renderMode_of_ne_v3 hversion _
    have hrender (text : String) : render (.literal (.string text)) =
        Render.literal host.renderers (visit.step.templateEngine.getD .mustache) (.string text)
          ctx := by
      show Render.value host.renderers mode _ _ = _
      rw [hmode]
      rfl
    refine ⟨?_, fun field hfield visible => ?_⟩
    · rw [hrender, Render.literal_service bare hbound]
    · have bareField : Path.Bare field := .of_isIdentifier hfield
      rw [hrender, Render.literal_field bare hbound bareField visible unhidden]

namespace Sample

/-- A service with a secret. -/
def sheets : Service where
  id := "cfg-1"
  integrationId := "google/sheet"
  label := none
  config := [("apiKey", .string "secret"), ("spreadsheetId", .string "abc")]
  secretFields := ["apiKey"]
  proxy := false

theorem unhidden_sheets : sheets.Unhidden := by
  unfold Service.Unhidden sheets
  decide

theorem sheets_discloses {fields : Entries Json} (h : sheets.Discloses fields) :
    fields = [("spreadsheetId", .string "abc")] := by
  have sorted : Entries.Sorted sheets.config := by
    unfold Entries.Sorted sheets
    decide
  exact h.unique sorted sheets.discloses_publicConfig

/-- A document that needs it. -/
def needing (version : ApiVersion) (steps : Pipeline) : Document :=
  ⟨version, none, steps, [⟨"google/sheet", "sheets", none⟩], none, .null⟩

def sheetsBound : BoundServices := ⟨[("@sheets", .new "sheets" sheets)]⟩

end Sample

/-- The first step in a loop of the third version, and the first step of an implicit document over a
value that has a field with the key of the service. -/
theorem Host.runDocument_services_sample :
    let looping := Sample.needing .v3 (Sample.looping "item")
    let implicit := Sample.needing .v1 [Step.new (Brick.identity : Brick Unit).id]
    let info (document : Document) := (document.settings Sample.sheetsBound).toRunInfo
    let running : Json := .object [("@sheets", .bool true)]
    (∃ call visit,
        (Sample.host.scope (info looping) (Sample.host.runPipeline (info looping) 0) call).head? =
          some visit ∧
        Render.value Sample.host.renderers .explicit visit.context (.var (some "@sheets")) =
          .ok (.object [("spreadsheetId", .string "abc")]) ∧
        Render.value Sample.host.renderers .explicit visit.context (.var (some "@sheets.apiKey")) =
          .ok .null) ∧
      ∃ visit,
        (Sample.host.scope (info implicit) (Sample.host.runPipeline (info implicit) 0)
          (implicit.call Sample.sheetsBound .null ())).head? = some visit ∧
        let ctx := renderContext (.implicit .mustache) visit.context running
        Render.value Sample.host.renderers (.implicit .mustache) ctx
            (.literal (.string "@sheets")) =
          .ok (.object [("config", .object [("spreadsheetId", .string "abc")]),
            ("id", .string "cfg-1"), ("integrationId", .string "google/sheet"),
            ("proxy", .bool false), ("secretFields", .array [.string "apiKey"])]) ∧
        Render.value Sample.host.renderers (.implicit .mustache) ctx
            (.literal (.string "@sheets.spreadsheetId")) = .ok (.string "abc") := by
  intro looping implicit info running
  have bound : (Locator.bindAll (MemoryLocator.ofServices [Sample.sheets])
      [⟨"google/sheet", "sheets", none⟩]).answer = .ok Sample.sheetsBound := rfl
  constructor
  · have valid : Lint.check Sample.host.registry looping = .ok [] := rfl
    obtain ⟨-, service, fields, located, disclosed, hread⟩ :=
      Sample.host.runDocument_services valid bound (List.mem_singleton.2 rfl) (by decide) .null ()
    obtain rfl : Sample.sheets = service := Except.ok.inj (located.alone inferInstance)
    obtain rfl := Sample.sheets_discloses disclosed
    obtain ⟨call, visit, entered, hvisit⟩ := exists_entersSparing_of_any "@sheets"
      (show ((Sample.host.scope (info looping) (Sample.host.runPipeline (info looping) 1)
        (looping.call Sample.sheetsBound .null ())).head?.any _) = true by decide +kernel)
    obtain ⟨⟨hall, hfield⟩, -⟩ :=
      hread Sample.unhidden_sheets entered (reachedSparing_of_head? hvisit) running
    exact ⟨call, visit, hvisit, hall, hfield "apiKey" (by decide) (by decide)⟩
  · have valid : Lint.check Sample.host.registry implicit = .ok [] := rfl
    obtain ⟨-, service, fields, located, disclosed, hread⟩ :=
      Sample.host.runDocument_services valid bound (List.mem_singleton.2 rfl) (by decide) .null ()
    obtain rfl : Sample.sheets = service := Except.ok.inj (located.alone inferInstance)
    obtain rfl := Sample.sheets_discloses disclosed
    obtain ⟨visit, hvisit, hengine⟩ : ∃ visit,
        (Sample.host.scope (info implicit) (Sample.host.runPipeline (info implicit) 0)
          (implicit.call Sample.sheetsBound .null ())).head? = some visit ∧
        visit.step.templateEngine = none := ⟨_, rfl, rfl⟩
    obtain ⟨-, hbare⟩ := hread Sample.unhidden_sheets .here (reachedSparing_of_head? hvisit) running
    rw [hengine] at hbare
    obtain ⟨hrecord, hfield⟩ := hbare (by decide)
    exact ⟨visit, hvisit, hrecord, hfield "spreadsheetId" (by decide) (by decide)⟩

end BrickPipeline
