import BrickPipeline.Document.Lint
import BrickPipeline.Proofs.Walk
import BrickPipeline.Proofs.FileLoading

/-!
Soundness of the lint. What it finds no errors in binds its services without trouble about keys, and
every step of a run is one that the lint has seen, so what the lint rules out happens in none of its
scopes.
-/
namespace BrickPipeline

variable {σ : Type}

namespace Lint

variable {registry : Registry σ} {document : Document} {diagnostics : List Diagnostic}

/-- A document that passes the lint has no diagnostics that are errors. -/
theorem ne_error_of_check (valid : check registry document = .ok diagnostics)
    {diagnostic : Diagnostic} (hm : diagnostic ∈ diagnose registry document) :
    diagnostic.severity ≠ .error := by
  intro he
  unfold check at valid
  dsimp only at valid
  split at valid
  · rename_i hnil
    have hf := List.filter_eq_nil_iff.1 (List.map_eq_nil_iff.1 hnil) diagnostic hm
    exact hf (by simpa using he)
  · cases valid

theorem unknownBrick_subset_diagnose :
    unknownBrick registry document ⊆ diagnose registry document := by
  intro diagnostic hm
  simp only [diagnose, List.mem_append, hm, true_or]

theorem reservedOutputKey_subset_diagnose (registry : Registry σ) :
    reservedOutputKey document ⊆ diagnose registry document := by
  intro diagnostic hm
  simp only [diagnose, List.mem_append, hm, true_or, or_true]

/-- The bricks of the steps that the lint sees are registered. -/
theorem has_of_check (valid : check registry document = .ok diagnostics) {step : Step}
    (sees : Pipeline.Sees document.pipeline step) : registry.has step.id.text = true := by
  obtain ⟨place, hp⟩ := sees
  cases hr : registry.has step.id.text with
  | true => rfl
  | false =>
    have hm : errorAt "unknown_brick" s!"Brick '{step.id}' is not registered" place none ∈
        unknownBrick registry document :=
      List.mem_filterMap.2 ⟨(place, step), hp, if_neg (by simp [hr])⟩
    exact absurd rfl (ne_error_of_check valid (unknownBrick_subset_diagnose hm))

/-- What the rule about reserved keys looks at has a key that is not reserved. -/
theorem not_reserved_of_check (valid : check registry document = .ok diagnostics)
    {outputKey : String} (place : String)
    (h : ∀ diagnostic, reservedAt outputKey place = some diagnostic →
      diagnostic ∈ reservedOutputKey document) : isReserved outputKey = false := by
  cases hr : isReserved outputKey with
  | false => rfl
  | true =>
    have hm := h _ (if_pos hr)
    exact absurd rfl (ne_error_of_check valid (reservedOutputKey_subset_diagnose registry hm))

/-- The output keys of the steps that the lint sees are not reserved. -/
theorem step_not_reserved (valid : check registry document = .ok diagnostics) {step : Step}
    (sees : Pipeline.Sees document.pipeline step) {outputKey : String}
    (hk : step.outputKey = some outputKey) : isReserved outputKey = false := by
  obtain ⟨place, hp⟩ := sees
  refine not_reserved_of_check valid place fun diagnostic hd => ?_
  refine List.mem_append_right _ (List.mem_filterMap.2 ⟨(place, step), hp, ?_⟩)
  dsimp only
  rw [hk]
  exact hd

/-- Nor are those of the dependencies. -/
theorem dependency_not_reserved (valid : check registry document = .ok diagnostics)
    {dependency : Dependency} (hm : dependency ∈ document.dependencies) :
    isReserved dependency.outputKey = false := by
  obtain ⟨index, hi⟩ := List.getElem?_of_mem hm
  have hz : (dependency, index) ∈ document.dependencies.zipIdx :=
    List.mem_zipIdx_iff_getElem?.2 hi
  exact not_reserved_of_check valid (dependencyPlace index) fun diagnostic hd =>
    List.mem_append_left _ (List.mem_filterMap.2 ⟨(dependency, index), hz, hd⟩)

end Lint

/-! Services of dependencies that leave the reserved keys alone are bound, if they are found. -/

/-- Whether a failure is not about a reserved key. -/
def Error.SparesKeys (error : Error) : Prop := ∀ outputKey, error ≠ .reservedOutputKey outputKey

/-- Whether services may be bound as they were found, or else could not be found. -/
structure Bindable (answer : Except Error (List BoundService)) : Prop where
  spares : FailsOnly Error.SparesKeys answer
  unreserved : ∀ entries, answer = .ok entries →
    ∀ entry ∈ entries, isReserved entry.outputKey = false

theorem Bindable.error {failure : Error} (h : failure.SparesKeys) : Bindable (.error failure) :=
  ⟨.error h, nofun⟩

theorem Bindable.nil : Bindable (.ok []) where
  spares := .ok []
  unreserved := by
    intro entries he
    cases he
    exact nofun

theorem Bindable.cons {dependency : Dependency} (hd : isReserved dependency.outputKey = false)
    (service : Service) {others : Except Error (List BoundService)} (h : Bindable others) :
    Bindable ((BoundService.new dependency.outputKey service :: ·) <$> others) := by
  refine ⟨.map _ h.spares, fun entries he => ?_⟩
  obtain ⟨rest, hr, rfl⟩ := Except.ok_of_map he
  exact List.forall_mem_cons.2 ⟨hd, h.unreserved rest hr⟩

theorem BoundServices.exists_of_unreserved {entries : List BoundService}
    (h : ∀ entry ∈ entries, isReserved entry.outputKey = false) :
    ∃ services, ofEntries entries = .ok services := by
  have hfold : ∀ before : BoundServices,
      ∃ services, entries.foldlM insert before = .ok services := by
    induction entries with
    | nil => exact fun before => ⟨before, rfl⟩
    | cons entry rest ih =>
      intro before
      obtain ⟨he, hr⟩ := List.forall_mem_cons.1 h
      rw [List.foldlM_cons, insert, if_neg (by simp [he])]
      exact ih hr _
  exact hfold empty

namespace Locator

variable {L : Type} [Locator L]

theorem sparesKeys_locate (locator : L) (integrationId : String) (configId : Option String) :
    FailsOnly Error.SparesKeys (locate locator integrationId configId) := by
  unfold locate
  split
  · exact .ok _
  · exact .error nofun

theorem sparesKeys_accept (dependency : Dependency) (service : Service) :
    FailsOnly Error.SparesKeys (accept dependency service) := by
  unfold accept
  split
  · exact .ok _
  · exact .error nofun

theorem sparesKeys_known? {locator : L} {dependency : Dependency} {answer : Except Error Service}
    (h : known? locator dependency = some answer) : FailsOnly Error.SparesKeys answer := by
  unfold known? at h
  split at h
  · cases h
    exact sparesKeys_accept _ _
  · cases h

theorem sparesKeys_firstFailure? {locator : L} {dependencies : List Dependency} {fault : Error}
    (h : firstFailure? locator dependencies = some fault) : fault.SparesKeys := by
  obtain ⟨dependency, -, hd⟩ := List.exists_of_findSome?_eq_some h
  split at hd
  · rename_i failure hk
    cases hd
    exact sparesKeys_known? hk fault rfl
  · cases hd

-- A source of services may fail, but not on account of a key.
variable (spares : ∀ locator : L, FailsOnly Error.SparesKeys (refresh locator))

include spares

theorem sparesKeys_retry (locator : L) (dependency : Dependency) :
    FailsOnly Error.SparesKeys (retry locator dependency).2 := by
  unfold retry
  split
  · rename_i fault hr
    exact .error (spares locator fault hr)
  · exact .bind (sparesKeys_locate _ _ _) fun _ => sparesKeys_accept _ _

theorem sparesKeys_resolve (locator : L) (dependency : Dependency) :
    FailsOnly Error.SparesKeys (resolve locator dependency).answer := by
  unfold resolve
  split
  · rename_i hk
    exact sparesKeys_known? hk
  · exact sparesKeys_retry spares locator dependency

variable {dependencies : List Dependency}
  (free : ∀ dependency ∈ dependencies, isReserved dependency.outputKey = false)

include free

theorem bindable_resolveAll (locator : L) : Bindable (resolveAll locator dependencies).answer := by
  induction dependencies generalizing locator with
  | nil => exact .nil
  | cons dependency rest ih =>
    obtain ⟨hd, hr⟩ := List.forall_mem_cons.1 free
    have hs := sparesKeys_resolve spares locator dependency
    unfold resolveAll
    dsimp only
    split
    · rename_i fault hf
      exact .error (hs fault hf)
    · exact .cons hd _ (ih hr _)

theorem bindable_finishAll (locator before : L) :
    Bindable (finishAll locator (dependencies.map fun d => (d, known? before d))).2 := by
  induction dependencies generalizing locator with
  | nil => exact .nil
  | cons dependency rest ih =>
    obtain ⟨hd, hr⟩ := List.forall_mem_cons.1 free
    have hturn : FailsOnly Error.SparesKeys ((known? before dependency).elim
        (retry locator dependency) fun answer => (locator, answer)).2 := by
      cases hk : known? before dependency with
      | none => exact sparesKeys_retry spares locator dependency
      | some answer => exact sparesKeys_known? hk
    rw [List.map_cons, finishAll_cons]
    dsimp only
    split
    · rename_i fault hf
      exact .error (hturn fault hf)
    · exact .cons hd _ (ih hr _)

theorem bindable_resolveTogether (locator : L) :
    Bindable (resolveTogether locator dependencies).answer := by
  unfold resolveTogether
  dsimp only
  split
  · rename_i fault hf
    split at hf
    · exact .error (sparesKeys_firstFailure? hf)
    · cases hf
  · exact bindable_finishAll spares free locator locator

/-- Binding the services of dependencies that leave the reserved keys alone does not fail on such a
key. -/
theorem sparesKeys_bindAll (locator : L) :
    FailsOnly Error.SparesKeys (bindAll locator dependencies).answer := by
  have hnone : dependencies.find? (isReserved ·.outputKey) = none :=
    List.find?_eq_none.2 fun dependency hm => by simp [free dependency hm]
  have hresolved : Bindable (if takesTime L then resolveTogether locator dependencies
      else resolveAll locator dependencies).answer := by
    split
    · exact bindable_resolveTogether spares free locator
    · exact bindable_resolveAll spares free locator
  unfold bindAll
  rw [hnone]
  dsimp only
  cases ha : (if takesTime L then resolveTogether locator dependencies
      else resolveAll locator dependencies).answer with
  | error fault => exact .error (hresolved.spares fault ha)
  | ok entries =>
    obtain ⟨services, hs⟩ := BoundServices.exists_of_unreserved (hresolved.unreserved entries ha)
    show FailsOnly _ (BoundServices.ofEntries entries)
    rw [hs]
    exact .ok services

end Locator

theorem MemoryLocator.sparesKeys_refresh (locator : MemoryLocator) :
    FailsOnly Error.SparesKeys (Locator.refresh locator) := .ok _

theorem FileLocator.sparesKeys_refresh (locator : FileLocator) :
    FailsOnly Error.SparesKeys (Locator.refresh locator) := by
  intro fault h
  have unreadable : Unreadable locator.file fault := unreadable_of_refresh h
  generalize locator.file = file at unreadable
  cases unreadable <;> exact nofun

/-- The call that running a document comes down to once its services are bound. -/
def Document.call (document : Document) (services : BoundServices) (input : Json) (state : σ) :
    Call σ :=
  .root document.pipeline ((document.settings services).context input) state

/-- Running a document is running that call, between log entries. -/
theorem Host.runDocument_of_bound {L : Type} [Locator L] (host : Host σ) (depth : Nat)
    (document : Document) (input : Json) {locator : L} {services : BoundServices}
    (bound : (Locator.bindAll locator document.dependencies).answer = .ok services) (state : σ) :
    let ran := (host.runDocument depth document input locator).2 state
    let inner := (document.call services input state).run
      (host.runPipeline (document.settings services).toRunInfo depth)
    ran.answer = inner.answer ∧ Event.reports ran.events = Event.reports inner.events := by
  have hlogs : ∀ log : List Log.Entry,
      Event.reports (log.map fun entry => .log ⟨entry, none⟩) = [] := by
    intro log
    induction log with
    | nil => rfl
    | cons entry rest ih => exact ih
  intro ran inner
  have hinner : inner = host.runPipeline (document.settings services).toRunInfo depth
    document.pipeline ((document.settings services).context input) state := rfl
  rw [hinner]
  unfold ran runDocument run
  simp only [bound, Exec.bind_eq, Exec.pure_eq]
  rcases h : host.runPipeline (document.settings services).toRunInfo depth document.pipeline
      ((document.settings services).context input) state with ⟨events, left, _ | answer⟩ <;>
    simp [Exec.bind, Exec.emitAll, Exec.log, Exec.emit, Exec.done, h, hlogs]

/-- Whether a failure is one that the lint is there to rule out. -/
def Error.isLinted : Error → Bool
  | .unknownBrick _ | .reservedOutputKey _ => true
  | _ => false

/-- A step that the lint has seen raises none of the failures that the lint rules out, unless its
brick runs no pipelines and does so by itself. -/
theorem Host.callFree_of_raised_linted {host : Host σ} {info : RunInfo}
    (only : host.registry.OnlyControlCalls) {visit : Visit σ}
    (has : host.registry.has visit.step.id.text = true)
    (free : ∀ outputKey, visit.step.outputKey = some outputKey → isReserved outputKey = false)
    {depth : Nat} {error : Error} (linted : error.isLinted = true)
    (h : host.raised? info (host.runPipeline info depth) visit = some error) :
    ∃ brick args, host.prepared info visit = .ready brick args ∧ brick.CallFree := by
  rcases raised_cases only h with ⟨args, hp⟩ | hc | ⟨arg, message, rfl⟩ | hready
  · exfalso
    rcases host.failed_cases _ _ _ _ hp with ⟨outputKey, hk, hr, -⟩ | ⟨hn, -⟩ |
      ⟨engine, message, rfl⟩ | ⟨violations, rfl⟩
    · simp [free outputKey hk] at hr
    · simp [Registry.has, hn] at has
    · cases linted
    · cases linted
  · cases error with
    | context _ _ _ _ => cases linted
    | _ => cases hc
  · cases linted
  · exact hready

/-- The lint is sound. If only the control-flow bricks run pipelines, the sub-pipelines of a
document stand in place and the lint finds no errors in it, then binding its services never fails on
a reserved key, be the locator in memory or in a file. Once they are bound, the run of the document
ends as that of its call does, and every step of every scope that this run enters is one that the
lint has seen: that step itself if the pipeline is legible, as one that was read is, and else the
step as it is read back. No such step comes to an unknown brick or a reserved key, whether it is
caught or not, unless a brick that runs no pipelines was run and made that failure up. -/
theorem Host.runDocument_lint (host : Host σ) (only : host.registry.OnlyControlCalls)
    (document : Document) (inPlace : Pipeline.inPlace document.pipeline = true)
    {diagnostics : List Diagnostic}
    (valid : Lint.check host.registry document = .ok diagnostics) :
    (∀ locator : MemoryLocator,
        FailsOnly Error.SparesKeys (Locator.bindAll locator document.dependencies).answer) ∧
      (∀ locator : FileLocator,
        FailsOnly Error.SparesKeys (Locator.bindAll locator document.dependencies).answer) ∧
      ∀ (services : BoundServices) (input : Json) (state : σ),
        let info := (document.settings services).toRunInfo
        let call := document.call services input state
        (∀ {L : Type} [Locator L] (locator : L) (depth : Nat),
          (Locator.bindAll locator document.dependencies).answer = .ok services →
          ((host.runDocument depth document input locator).2 state).answer =
            (call.run (host.runPipeline info depth)).answer) ∧
        ∀ {depth left : Nat} {path : List (Visit σ × Call σ)} {scope : Call σ},
          host.Enters info depth call (left + 1) path scope →
          ∀ visit ∈ host.scope info (host.runPipeline info left) scope,
            (∃ declared, Pipeline.Sees document.pipeline declared ∧ declared.RunsAs visit.step ∧
              (Expr.LegibleSteps document.pipeline → visit.step = declared)) ∧
            ∀ error, host.raised? info (host.runPipeline info left) visit = some error →
              error.isLinted = true →
              ∃ brick args, host.prepared info visit = .ready brick args ∧ brick.CallFree := by
  have free : ∀ dependency ∈ document.dependencies, isReserved dependency.outputKey = false :=
    fun _ hm => Lint.dependency_not_reserved valid hm
  refine ⟨Locator.sparesKeys_bindAll MemoryLocator.sparesKeys_refresh free,
    Locator.sparesKeys_bindAll FileLocator.sparesKeys_refresh free, ?_⟩
  intro services input state info call
  refine ⟨fun locator depth bound =>
    (host.runDocument_of_bound depth document input bound state).1, ?_⟩
  intro depth left path scope entered visit visited
  obtain ⟨declared, hsees, hruns, -, hlegible⟩ :=
    entered.sees only inPlace _ (step_mem_of_mem_scope visited)
  obtain ⟨hid, hkey⟩ := hruns.id_outputKey
  refine ⟨⟨declared, hsees, hruns, fun legible => hruns.eq_of_legible (hlegible legible)⟩,
    fun error hraised linted => callFree_of_raised_linted only ?_ ?_ linted hraised⟩
  · rw [hid]
    exact Lint.has_of_check valid hsees
  · intro outputKey hk
    rw [hkey] at hk
    exact Lint.step_not_reserved valid hsees hk

/-- A document that contains a failure, and needs a service. -/
def Sample.contained : Document := ⟨.v3, none, steps, [⟨"example", "api", none⟩], none, .null⟩

theorem Host.runDocument_lint_sample :
    let info := (Sample.contained.settings .empty).toRunInfo
    FailsOnly Error.SparesKeys
        (Locator.bindAll (MemoryLocator.ofServices []) Sample.contained.dependencies).answer ∧
      ∃ visit call inner,
        Sample.host.Enters info 2 (Sample.contained.call .empty .null ()) 1 [(visit, call)] call ∧
        inner ∈ Sample.host.scope info (Sample.host.runPipeline info 0) call ∧
        (Sample.host.raised? info (Sample.host.runPipeline info 0) inner).isSome = true ∧
        Pipeline.Sees Sample.steps inner.step := by
  intro info
  have valid : Lint.check Sample.host.registry Sample.contained = .ok [] := rfl
  have read : Pipeline.read .text Sample.tree = .ok Sample.steps := rfl
  have h : ((Sample.host.nestedVisits info 0 (Sample.contained.call .empty .null ())).any
      fun entry => (Sample.host.raised? info (Sample.host.runPipeline info 0) entry.2.2).isSome) =
        true := by decide +kernel
  obtain ⟨visit, call, inner, hraised, entered, visited⟩ := exists_enters_of_any h
  obtain ⟨hmemory, -, hsteps⟩ := Sample.host.runDocument_lint Registry.onlyControlCalls_standard
    Sample.contained (by decide +kernel) valid
  obtain ⟨-, hseen⟩ := hsteps .empty .null ()
  obtain ⟨⟨declared, hsees, -, heq⟩, -⟩ := hseen entered inner visited
  refine ⟨hmemory _, visit, call, inner, entered, visited, hraised, ?_⟩
  rw [heq (Pipeline.legible_of_read read)]
  exact hsees

end BrickPipeline
