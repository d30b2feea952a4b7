import BrickPipeline.Proofs.Requests

/-!
The input and the options of a run. No step and no service rebinds them, but a loop or a containment
step binds an element or a failure under any key that it is told, so a step sees the innermost
binding that the steps around it have made.
-/
namespace BrickPipeline

variable {σ : Type}

/-- The keys of the bindings that every run starts with. -/
def reservedKeys : List String := [inputKey, optionsKey]

theorem isReserved_iff (outputKey : String) :
    isReserved outputKey = true ↔ bindingKey outputKey ∈ reservedKeys := by
  simp [isReserved, reservedKeys]

/-- What a key that was bound to a value is bound to after more bindings. -/
def rebound (key : String) (value : Option Json) (bindings : List (String × Json)) : Option Json :=
  bindings.foldl (fun value binding => if binding.1 = key then some binding.2 else value) value

theorem rebound_of_forall_ne {key : String} (value : Option Json) {bindings : List (String × Json)}
    (h : ∀ binding ∈ bindings, binding.1 ≠ key) : rebound key value bindings = value := by
  induction bindings generalizing value with
  | nil => rfl
  | cons binding rest ih =>
    obtain ⟨hb, hr⟩ := List.forall_mem_cons.1 h
    rw [rebound, List.foldl_cons, if_neg hb]
    exact ih value hr

theorem Context.get?_bindAll (ctx : Context) (key : String) (bindings : List (String × Json)) :
    (ctx.bindAll bindings).get? key = rebound key (ctx.get? key) bindings := by
  induction bindings generalizing ctx with
  | nil => rfl
  | cons binding rest ih =>
    have hb : (ctx.bind binding.1 binding.2).get? key =
        if binding.1 = key then some binding.2 else ctx.get? key := by
      split
      · rename_i hk
        rw [← hk, get?_bind_self]
      · rename_i hk
        rw [get?_bind_of_ne ctx (Ne.symm hk)]
    rw [rebound, List.foldl_cons, ← hb]
    exact ih (ctx.bind binding.1 binding.2)

/-- What a key is bound to at the start of a scope, given what whoever asks for it has it bound to:
a captured environment takes the place of the bindings around it. -/
def Call.carry (key : String) (value : Option Json) (call : Call σ) : Option Json :=
  rebound key ((call.sub.environment.map (·.get? key)).getD value) call.bindings

theorem Call.get?_context (call : Call σ) (key : String) :
    call.context.get? key = call.carry key (call.caller.get? key) := by
  unfold context carry
  rw [Context.get?_bindAll]
  cases call.sub.environment <;> rfl

theorem Call.carry_of_kept {key : String} {call : Call σ} (he : call.sub.environment = none)
    (hb : ∀ binding ∈ call.bindings, binding.1 ≠ key) (value : Option Json) :
    call.carry key value = value := by
  rw [carry, he, Option.map_none, Option.getD_none, rebound_of_forall_ne value hb]

namespace Host

variable {host : Host σ} {info : RunInfo} {nested : Runner σ}

/-- A step that leaves a value does not bind it under a reserved key. -/
theorem not_reserved_of_value {visit : Visit σ} {value : Json}
    (h : host.value? info nested visit = some value) {outputKey : String}
    (hk : visit.step.outputKey = some outputKey) : isReserved outputKey = false := by
  have hready : ∃ brick args, host.prepared info visit = .ready brick args := by
    unfold value? at h
    cases host.passage info nested visit with
    | refused _ leaves _ => simp [leaves] at h
    | skipped _ leaves _ => simp [leaves] at h
    | tooDeep _ _ leaves => simp [leaves] at h
    | failed _ _ leaves _ => simp [leaves] at h
    | completed prepared _ _ _ => exact ⟨_, _, prepared⟩
  obtain ⟨brick, args, hp⟩ := hready
  unfold prepared prepare at hp
  cases hr : isReserved outputKey with
  | false => rfl
  | true =>
    rw [hk, Option.filter_some_pos hr] at hp
    cases hp

/-- The steps of a scope leave the reserved bindings as they were at its start. -/
theorem get?_of_mem_scope {call : Call σ} {visit : Visit σ}
    (h : visit ∈ host.scope info nested call) {key : String} (hk : key ∈ reservedKeys) :
    visit.context.get? key = call.context.get? key := by
  obtain ⟨earlier, later, hs⟩ := List.append_of_mem h
  rw [host.scope_context info nested call hs]
  generalize call.context = ctx
  clear hs
  induction earlier generalizing ctx with
  | nil => rfl
  | cons before rest ih =>
    rw [List.foldl_cons, ih]
    unfold contextAfter
    split
    · rename_i value outputKey hv ho
      refine Context.get?_bind_of_ne ctx (fun he => ?_) value
      have hr := (isReserved_iff outputKey).2 (he ▸ hk)
      rw [not_reserved_of_value hv ho] at hr
      cases hr
    · rfl

/-- A scope starts with the innermost of the reserved bindings that were made on the way to it. -/
theorem Enters.get?_context {depth left : Nat} {call scope : Call σ}
    {path : List (Visit σ × Call σ)} (h : host.Enters info depth call left path scope)
    {key : String} (hk : key ∈ reservedKeys) :
    scope.context.get? key =
      path.foldl (fun value entered => entered.2.carry key value) (call.context.get? key) := by
  induction h with
  | here => rfl
  | deeper _ visited asked ih =>
    rw [List.foldl_append, ← ih, ← get?_of_mem_scope visited hk, Call.get?_context,
      host.caller_of_mem_stepCalls info _ asked]
    rfl

/-- The key under which the brick of a step binds values for the sub-pipelines it asks for. -/
def boundKey? (host : Host σ) (info : RunInfo) (visit : Visit σ) : Option String :=
  match host.prepared info visit with
  | .ready _ args => (Control.ofId? visit.step.id).bind (·.boundKey? args)
  | _ => none

/-- A step binds nothing for its sub-pipelines under other keys than that of its brick. -/
theorem bindings_of_mem_calls (only : host.registry.OnlyControlCalls) {visit : Visit σ}
    {call : Call σ} (h : call ∈ host.calls info nested visit) :
    ∀ binding ∈ call.bindings, host.boundKey? info visit = some binding.1 := by
  obtain ⟨control, args, hp, hid, -, hbindings⟩ := asked_of_mem_calls only h
  intro binding hm
  rcases hbindings with hb | ⟨key, value, hkey, hb⟩
  · rw [hb] at hm
    cases hm
  · rw [hb] at hm
    obtain rfl := List.mem_singleton.1 hm
    unfold boundKey?
    rw [hp, ← hid, Control.ofId?_id]
    exact hkey

/-- A scope keeps a key if no step on the way to it binds that key or hands over a captured
environment. -/
theorem Enters.foldl_carry_of_kept (only : host.registry.OnlyControlCalls) {depth left : Nat}
    {call scope : Call σ} {path : List (Visit σ × Call σ)}
    (h : host.Enters info depth call left path scope) {key : String}
    (kept : ∀ entered ∈ path, entered.2.sub.environment = none ∧
      host.boundKey? info entered.1 ≠ some key) (value : Option Json) :
    path.foldl (fun value entered => entered.2.carry key value) value = value := by
  induction h with
  | here => rfl
  | deeper _ _ asked ih =>
    obtain ⟨hbefore, hlast⟩ := List.forall_mem_append.1 kept
    obtain ⟨he, hb⟩ := hlast _ (List.mem_singleton.2 rfl)
    rw [List.foldl_append, ih hbefore]
    refine Call.carry_of_kept he (fun binding hm hk => hb ?_) value
    rw [← hk]
    exact bindings_of_mem_calls only asked binding hm

end Host

namespace BoundServices

theorem insert_unreserved {services after : BoundServices} {entry : BoundService}
    (h : services.insert entry = .ok after)
    (hs : ∀ bound ∈ services.entries, bound.1 ∉ reservedKeys) :
    ∀ bound ∈ after.entries, bound.1 ∉ reservedKeys := by
  unfold insert at h
  split at h
  · cases h
  · rename_i hr
    cases h
    intro bound hm
    rcases Entries.mem_of_mem_insert hm with rfl | hm
    · exact fun hk => hr ((isReserved_iff _).2 hk)
    · exact hs bound hm

/-- No service is bound under a reserved key. -/
theorem unreserved_of_ofEntries {entries : List BoundService} {services : BoundServices}
    (h : ofEntries entries = .ok services) :
    ∀ bound ∈ services.entries, bound.1 ∉ reservedKeys := by
  have hfold : ∀ (entries : List BoundService) (before : BoundServices),
      (∀ bound ∈ before.entries, bound.1 ∉ reservedKeys) →
        entries.foldlM insert before = .ok services →
          ∀ bound ∈ services.entries, bound.1 ∉ reservedKeys := by
    intro entries
    induction entries with
    | nil =>
      intro before hb he
      cases he
      exact hb
    | cons entry rest ih =>
      intro before hb he
      rw [List.foldlM_cons] at he
      obtain ⟨after, ha, hrest⟩ := Except.ok_of_bind he
      exact ih after (insert_unreserved ha hb) hrest
  exact hfold entries empty nofun h

end BoundServices

/-- The services that are bound for a document are bound one by one. -/
theorem Locator.exists_ofEntries {L : Type} [Locator L] {locator : L}
    {dependencies : List Dependency} {services : BoundServices}
    (h : (bindAll locator dependencies).answer = .ok services) :
    ∃ entries, BoundServices.ofEntries entries = .ok services := by
  unfold bindAll at h
  split at h
  · cases h
  · obtain ⟨entries, -, he⟩ := Except.ok_of_bind h
    exact ⟨entries, he⟩

/-- A run starts with its input and its options, whatever services are bound for it. -/
theorem RunSettings.get?_context {settings : RunSettings}
    (unreserved : ∀ bound ∈ settings.services.entries, bound.1 ∉ reservedKeys) (input : Json) :
    (settings.context input).get? inputKey = some input ∧
      (settings.context input).get? optionsKey =
        some (if settings.modOptions.isNull then .object [] else settings.modOptions) := by
  have hb : ∀ key ∈ reservedKeys, ∀ binding ∈ settings.services.bindings, binding.1 ≠ key := by
    intro key hk binding hm he
    obtain ⟨bound, hbound, rfl⟩ := List.mem_map.1 hm
    exact unreserved bound hbound (he ▸ hk)
  unfold context
  dsimp only
  generalize (if settings.modOptions.isNull then Json.object [] else settings.modOptions) = options
  have hi : Context.initial input options =
      (Context.empty.bind inputKey input).bind optionsKey options := by
    simp only [Context.initial, Context.bind, Context.empty, Entries.ofList, Entries.insertAll,
      List.foldl_cons, List.foldl_nil]
  rw [Context.get?_bindAll, Context.get?_bindAll, hi,
    rebound_of_forall_ne _ (hb inputKey (by decide)),
    rebound_of_forall_ne _ (hb optionsKey (by decide)),
    Context.get?_bind_of_ne _ (by decide), Context.get?_bind_self, Context.get?_bind_self]
  exact ⟨rfl, rfl⟩

/-- What a step sees as the input and the options of its run. In every scope that a run enters, from
a captured environment or not, they are the innermost bindings of their keys that were made on the
way there. Steps and services make none, so they are the input and the options that the run was
started with unless a scope around the step, or its own, was started from a captured environment,
or by a loop or a containment step that was told to bind its element or failure under a reserved
key. -/
theorem Host.run_reservedKeys (host : Host σ) (only : host.registry.OnlyControlCalls)
    (settings : RunSettings) {entries : List BoundService}
    (bound : BoundServices.ofEntries entries = .ok settings.services) (depth : Nat)
    (steps : Pipeline) (input : Json) (state : σ) {left : Nat} {path : List (Visit σ × Call σ)}
    {scope : Call σ}
    (entered : host.Enters settings.toRunInfo depth (.root steps (settings.context input) state)
      (left + 1) path scope)
    {visit : Visit σ}
    (visited : visit ∈ host.scope settings.toRunInfo (host.runPipeline settings.toRunInfo left)
      scope) :
    (∀ key ∈ reservedKeys, visit.context.get? key =
        path.foldl (fun value entered => entered.2.carry key value)
          ((settings.context input).get? key)) ∧
      ((settings.context input).get? inputKey = some input ∧
        (settings.context input).get? optionsKey =
          some (if settings.modOptions.isNull then .object [] else settings.modOptions)) ∧
      ∀ key ∈ reservedKeys,
        (∀ entered ∈ path, entered.2.sub.environment = none ∧
          host.boundKey? settings.toRunInfo entered.1 ≠ some key) →
        visit.context.get? key = (settings.context input).get? key := by
  have hinner : ∀ key ∈ reservedKeys, visit.context.get? key =
      path.foldl (fun value entered => entered.2.carry key value)
        ((settings.context input).get? key) := fun key hk =>
    (get?_of_mem_scope visited hk).trans (entered.get?_context hk)
  refine ⟨hinner, RunSettings.get?_context (BoundServices.unreserved_of_ofEntries bound) input,
    fun key hk hpath => ?_⟩
  rw [hinner key hk]
  exact entered.foldl_carry_of_kept only hpath _

namespace Sample

/-- A loop that runs once, over a body that shows its input. -/
def looping (elementKey : String) : Pipeline :=
  [(((Step.new Brick.Loop.id).withArg "elements" (.array [.literal (.nat 1)])).withArg "elementKey"
    (.str elementKey)).withArg "body"
      (.ofSteps
        [(Step.new (Brick.identity : Brick Unit).id).withArg "seen" (.var (some "@input"))])]

/-- The run of a pipeline on a text, as the call of its own scope. -/
def started (steps : Pipeline) : Call Unit :=
  .root steps ((RunSettings.new .v3).context (.string "start")) ()

/-- Whether a key is bound to the element of the loop. -/
def isElement : Option Json → Bool
  | some (.number (.integer 1)) => true
  | _ => false

end Sample

theorem Host.run_reservedKeys_sample :
    let info := (RunSettings.new .v3).toRunInfo
    ∃ visit call inner,
      Sample.host.Enters info 2 (Sample.started (Sample.looping "item")) 1 [(visit, call)] call ∧
      inner ∈ Sample.host.scope info (Sample.host.runPipeline info 0) call ∧
      inner.context.get? inputKey = some (.string "start") := by
  intro info
  have h : ((Sample.host.nestedVisits info 0 (Sample.started (Sample.looping "item"))).any
      fun entry => entry.2.1.sub.environment.isNone &&
        decide (Sample.host.boundKey? info entry.1 = some "@item")) = true := by decide +kernel
  obtain ⟨visit, call, inner, hc, entered, visited⟩ := Host.exists_enters_of_any h
  obtain ⟨he, hk⟩ := (Bool.and_eq_true_iff).1 hc
  obtain ⟨-, ⟨hinput, -⟩, hkept⟩ := Sample.host.run_reservedKeys Registry.onlyControlCalls_standard
    (RunSettings.new .v3) (rfl : BoundServices.ofEntries [] = .ok .empty) 2 _ (.string "start") ()
    entered visited
  refine ⟨visit, call, inner, entered, visited, ?_⟩
  rw [hkept inputKey (by decide), hinput]
  intro step hm
  obtain rfl := List.mem_singleton.1 hm
  refine ⟨Option.isNone_iff_eq_none.1 he, ?_⟩
  rw [of_decide_eq_true hk]
  decide

/-- A loop that is told to bind its elements as the input of the run does so, although no scope was
started from a captured environment. -/
theorem Host.exists_rebound_input :
    let info := (RunSettings.new .v3).toRunInfo
    let run := Sample.started (Sample.looping "input")
    ∃ path scope visit, Sample.host.Enters info 2 run 1 path scope ∧
      (∀ entered ∈ path, entered.2.sub.environment = none) ∧
      visit ∈ Sample.host.scope info (Sample.host.runPipeline info 0) scope ∧
      visit.context.get? inputKey ≠ run.context.get? inputKey := by
  intro info run
  have h : ((Sample.host.nestedVisits info 0 run).any fun entry =>
      entry.2.1.sub.environment.isNone &&
        Sample.isElement (entry.2.2.context.get? inputKey)) = true := by decide +kernel
  obtain ⟨visit, call, inner, hc, entered, visited⟩ := Host.exists_enters_of_any h
  obtain ⟨he, hv⟩ := (Bool.and_eq_true_iff).1 hc
  refine ⟨[(visit, call)], call, inner, entered, ?_, visited, fun hsame => ?_⟩
  · intro step hm
    obtain rfl := List.mem_singleton.1 hm
    exact Option.isNone_iff_eq_none.1 he
  · have hs : Sample.isElement (run.context.get? inputKey) = false := by decide +kernel
    dsimp only at hv
    rw [hsame, hs] at hv
    cases hv

end BrickPipeline
