import BrickPipeline.Proofs.Failures
import Mathlib.Data.List.Forall2
import Mathlib.Data.List.Perm.Basic

/-!
Deployment alerts. A ledger tells the failures of a run apart: a failure begins where it is raised,
goes on as long as it is handed on, and has ended once a brick answers otherwise. Each of them
accounts for at most one alert, and its mark tells whether that alert was sent.
-/
namespace BrickPipeline

variable {σ : Type}

theorem Error.isAlerted_of_plain {error : Error} (plain : error.isContext = false) :
    error.isAlerted = false := by
  cases error with
  | context => cases plain
  | _ => rfl

namespace Failure

/-- The alert for a failure: in a deployment, by the innermost of the steps it has left that ask
for one. -/
def alert? (info : RunInfo) (failure : Failure σ) : Option Alert := do
  let deploymentId ← info.deploymentId
  let stage ← failure.stages.find? (·.step.alerts)
  return ⟨deploymentId, info.runId, stage.step.id, failure.error.toJson⟩

theorem isSome_alert? (info : RunInfo) (failure : Failure σ) :
    (failure.alert? info).isSome =
      (info.deploymentId.isSome && failure.stages.any (·.step.alerts)) := by
  unfold alert?
  cases hd : info.deploymentId with
  | none => rfl
  | some deploymentId =>
    have hs : (failure.stages.find? (·.step.alerts)).isSome ↔
        ∃ stage ∈ failure.stages, stage.step.alerts = true := List.find?_isSome
    rw [Option.isSome_some, Bool.true_and, Bool.eq_iff_iff, List.any_eq_true, ← hs]
    cases failure.stages.find? (·.step.alerts) <;> simp

end Failure

/-- The failures of a run: those that have ended within it, and the one that it ends with. -/
structure Ledger (σ : Type) where
  ended : List (Failure σ)
  live : Option (Failure σ)

namespace Ledger

/-- All failures, each once. -/
def all (ledger : Ledger σ) : List (Failure σ) := ledger.ended ++ ledger.live.toList

/-- The failures of steps in order; a run ends with the failure of its last step, if any. -/
def join : List (Ledger σ) → Ledger σ
  | [] => ⟨[], none⟩
  | [ledger] => ledger
  | ledger :: rest => ⟨ledger.all ++ (join rest).ended, (join rest).live⟩

@[simp] theorem all_join (ledgers : List (Ledger σ)) :
    (join ledgers).all = ledgers.flatMap all := by
  induction ledgers with
  | nil => rfl
  | cons ledger rest ih =>
    cases rest with
    | nil => simp [join]
    | cons next rest =>
      rw [List.flatMap_cons, ← ih]
      simp [join, all]

theorem live_join (ledgers : List (Ledger σ)) :
    (join ledgers).live = ledgers.getLast?.bind live := by
  induction ledgers with
  | nil => rfl
  | cons ledger rest ih =>
    cases rest with
    | nil => rfl
    | cons next rest =>
      rw [List.getLast?_cons_cons, ← ih]
      rfl

end Ledger

namespace Host

variable (host : Host σ) (info : RunInfo)

/-- The failures of a step that was reached, by those of the sub-pipelines that its brick ran. -/
inductive Entered (depth : Nat) (call : Call σ) (visit : Visit σ) (parts : List (Ledger σ)) :
    Ledger σ → Prop where
  | quiet (raises : host.raised? info (host.runPipeline info depth) visit = none) :
    Entered depth call visit parts ⟨parts.flatMap Ledger.all, none⟩
  | raised {cause left : Error}
    (raises : host.raised? info (host.runPipeline info depth) visit = some cause)
    (plain : cause.isContext = false)
    (leaves : (host.visitRun info (host.runPipeline info depth) visit).answer =
      some (.error left)) :
    Entered depth call visit parts
      ⟨parts.flatMap Ledger.all, some ⟨depth, call, visit, cause, [⟨visit.step, left⟩]⟩⟩
  | passed {before after : List (Ledger σ)} {ended : List (Failure σ)} {failure : Failure σ}
    {left : Error} (here : parts = before ++ ⟨ended, some failure⟩ :: after)
    (raises : host.raised? info (host.runPipeline info depth) visit = some failure.error)
    (leaves : (host.visitRun info (host.runPipeline info depth) visit).answer =
      some (.error left)) :
    Entered depth call visit parts
      ⟨before.flatMap Ledger.all ++ ended ++ after.flatMap Ledger.all,
        some (failure.past ⟨visit.step, left⟩)⟩

/-- Whether a ledger holds the failures of a run. -/
def Books : Nat → Call σ → Ledger σ → Prop
  | 0, _, _ => False
  | depth + 1, call, ledger =>
    ∃ pages, ledger = .join pages ∧
      List.Forall₂ (fun visit page => ∃ parts,
          List.Forall₂ (Books depth) (host.calls info (host.runPipeline info depth) visit) parts ∧
            host.Entered info depth call visit parts page)
        (host.scope info (host.runPipeline info depth) call) pages

variable {host info}

@[simp] theorem isAlerted_wrap (step : Step) (ctx : Context) (error : Error) :
    (wrap step ctx error).isAlerted = error.isAlerted := by
  cases error <;> rfl

theorem isAlerted_markAlerted_wrap (step : Step) (ctx : Context) (error : Error) :
    (markAlerted (wrap step ctx error)).isAlerted = true := by
  cases error <;> rfl

/-- A step marks a failure if it sends an alert for it; a mark stays. -/
theorem isAlerted_leave (step : Step) (ctx : Context) (error : Error) :
    (leave info step ctx error).isAlerted =
      (error.isAlerted || (info.deploymentId.isSome && step.alerts)) := by
  unfold leave alertFor?
  rw [isAlerted_wrap]
  cases hd : info.deploymentId <;> cases hs : step.alerts <;> cases ha : error.isAlerted <;>
    simp [ha, isAlerted_markAlerted_wrap]

theorem toJson_leave (step : Step) (ctx : Context) (error : Error) :
    (leave info step ctx error).toJson = (wrap step ctx error).toJson := by
  unfold leave
  split
  · rfl
  · cases wrap step ctx error <;> rfl

/-- The alert that a step sends itself, by the failure as it came to the step. -/
theorem ownAlert?_of_raised {nested : Runner σ} {visit : Visit σ} {error left : Error}
    (raises : host.raised? info nested visit = some error)
    (leaves : (host.visitRun info nested visit).answer = some (.error left)) :
    host.ownAlert? info nested visit =
      if visit.step.alerts && !error.isAlerted then
        info.deploymentId.map fun deploymentId =>
          ⟨deploymentId, info.runId, visit.step.id, left.toJson⟩
      else none := by
  rw [host.leave_of_raised info nested raises leaves, toJson_leave]
  simp [ownAlert?, raises, alertFor?]

namespace FailsWith

/-- A failure is marked by the first step that asks for an alert, and from then on. -/
theorem isAlerted {depth : Nat} {call : Call σ} {failure : Failure σ}
    (h : host.FailsWith info depth call failure) {earlier later : List Stage} {stage : Stage}
    (hs : failure.stages = earlier ++ stage :: later) :
    stage.error.isAlerted =
      (info.deploymentId.isSome && (earlier ++ [stage]).any (·.step.alerts)) := by
  induction h generalizing earlier later stage with
  | @raised depth call visit cause left _ raises plain leaves =>
    cases earlier with
    | nil =>
      obtain ⟨rfl, -⟩ := List.cons.inj hs
      rw [host.leave_of_raised info _ raises leaves, isAlerted_leave,
        Error.isAlerted_of_plain plain]
      simp
    | cons _ _ => simp at hs
  | @passed depth call below visit failure left _ _ failed raises leaves ih =>
    -- The stage is the one that was added last, or it was there before.
    rcases List.eq_nil_or_concat later with rfl | ⟨later, last, rfl⟩
    · obtain ⟨rfl, hstage⟩ := List.append_inj' hs rfl
      obtain ⟨rfl, -⟩ := List.cons.inj hstage
      have hne := failed.stages_ne_nil
      have hi := ih (List.dropLast_append_getLast hne).symm
      rw [List.dropLast_append_getLast hne] at hi
      rw [host.leave_of_raised info _ raises leaves, isAlerted_leave, failure.error_eq_getLast hne,
        hi, List.any_append]
      cases info.deploymentId.isSome <;> simp
    · have hinit : failure.stages ++ [⟨visit.step, left⟩] =
          (earlier ++ stage :: later) ++ [last] := by
        simpa [Failure.past] using hs
      exact ih (List.append_inj' hinit rfl).1

theorem isAlerted_error {depth : Nat} {call : Call σ} {failure : Failure σ}
    (h : host.FailsWith info depth call failure) :
    failure.error.isAlerted = (failure.alert? info).isSome := by
  have hne := h.stages_ne_nil
  have hi := h.isAlerted (List.dropLast_append_getLast hne).symm
  rw [List.dropLast_append_getLast hne] at hi
  rw [failure.error_eq_getLast hne, hi, failure.isSome_alert?]

end FailsWith

/-- A step that raises a failure sends the alert for it itself, if there is to be one. -/
theorem ownAlert?_of_plain {depth : Nat} {call : Call σ} {nested : Runner σ} {visit : Visit σ}
    {cause left : Error} (raises : host.raised? info nested visit = some cause)
    (plain : cause.isContext = false)
    (leaves : (host.visitRun info nested visit).answer = some (.error left)) :
    host.ownAlert? info nested visit =
      Failure.alert? info ⟨depth, call, visit, cause, [⟨visit.step, left⟩]⟩ := by
  rw [ownAlert?_of_raised raises leaves, Error.isAlerted_of_plain plain]
  unfold Failure.alert?
  cases info.deploymentId <;> cases hs : visit.step.alerts <;>
    simp [hs, Failure.error]

/-- A step that hands a failure on sends the alert for it unless a step within has sent it. -/
theorem alert?_past {depth : Nat} {below : Call σ} {nested : Runner σ} {visit : Visit σ}
    {failure : Failure σ} {left : Error} (failed : host.FailsWith info depth below failure)
    (raises : host.raised? info nested visit = some failure.error)
    (leaves : (host.visitRun info nested visit).answer = some (.error left)) :
    ((failure.past ⟨visit.step, left⟩).alert? info).toList =
      (failure.alert? info).toList ++ (host.ownAlert? info nested visit).toList := by
  have hj : left.toJson = failure.error.toJson := by
    obtain ⟨alerted, he⟩ := failed.error_wrapped
    rw [host.leave_of_raised info nested raises leaves, toJson_leave, he]
    rfl
  rw [ownAlert?_of_raised raises leaves, failed.isAlerted_error, failure.isSome_alert?]
  unfold Failure.alert?
  rw [Failure.error_past]
  simp only [Failure.past, List.find?_append, hj]
  cases info.deploymentId with
  | none => simp
  | some deploymentId =>
    have hs : (failure.stages.find? (·.step.alerts)).isSome ↔
        ∃ stage ∈ failure.stages, stage.step.alerts = true := List.find?_isSome
    cases hf : failure.stages.find? (·.step.alerts) with
    | none =>
      have hn : failure.stages.any (·.step.alerts) = false := by
        simpa using List.find?_eq_none.1 hf
      cases ha : visit.step.alerts <;> simp [hn, ha]
    | some first =>
      have hn : failure.stages.any (·.step.alerts) = true := by
        rw [List.any_eq_true, ← hs, hf]
        rfl
      simp [hn]

theorem alerts_visitRun {nested : Runner σ} {visit : Visit σ} {answer : Except Error (Option Json)}
    (h : (host.visitRun info nested visit).answer = some answer) :
    Event.alerts (host.visitRun info nested visit).events =
      ((host.calls info nested visit).flatMap fun call => Event.alerts (call.run nested).events) ++
        (host.ownAlert? info nested visit).toList := by
  have hr := congrArg Event.alerts (host.reports_visitRun info nested visit h)
  simp only [Event.alerts_reports, Event.alerts_append, Event.alerts_flatMap] at hr
  rw [hr]
  have ho : Event.alerts ((host.ownAlert? info nested visit).toList.map Event.alert) =
      (host.ownAlert? info nested visit).toList := by
    cases host.ownAlert? info nested visit <;> rfl
  rw [ho]
  simp [Event.alerts]

/-! Pages and lists that go along with each other. -/

private theorem exists_forall₂ {α β : Type} {R : α → β → Prop} {xs : List α}
    (h : ∀ x ∈ xs, ∃ y, R x y) : ∃ ys, List.Forall₂ R xs ys := by
  induction xs with
  | nil => exact ⟨[], .nil⟩
  | cons x xs ih =>
    obtain ⟨y, hy⟩ := h x List.mem_cons_self
    obtain ⟨ys, hys⟩ := ih fun x hm => h x (List.mem_cons_of_mem _ hm)
    exact ⟨y :: ys, .cons hy hys⟩

private theorem exists_mem_right {α β : Type} {R : α → β → Prop} {xs : List α} {ys : List β}
    (h : List.Forall₂ R xs ys) {x : α} (hm : x ∈ xs) : ∃ y ∈ ys, R x y := by
  induction h with
  | nil => cases hm
  | cons hxy _ ih =>
    rcases List.mem_cons.1 hm with rfl | hm
    · exact ⟨_, List.mem_cons_self, hxy⟩
    · obtain ⟨y, hy, hr⟩ := ih hm
      exact ⟨y, List.mem_cons_of_mem _ hy, hr⟩

private theorem exists_mem_left {α β : Type} {R : α → β → Prop} {xs : List α} {ys : List β}
    (h : List.Forall₂ R xs ys) {y : β} (hm : y ∈ ys) : ∃ x ∈ xs, R x y :=
  exists_mem_right h.flip hm

private theorem exists_getLast? {α β : Type} {R : α → β → Prop} {xs : List α} {ys : List β}
    (h : List.Forall₂ R xs ys) {x : α} (hx : xs.getLast? = some x) :
    ∃ y, ys.getLast? = some y ∧ R x y := by
  have hr := List.forall₂_reverse_iff.2 h
  rw [List.getLast?_eq_head?_reverse] at hx
  rw [List.getLast?_eq_head?_reverse]
  rw [List.head?_eq_some_iff] at hx
  obtain ⟨rest, hrest⟩ := hx
  rw [hrest, List.forall₂_cons_left_iff] at hr
  obtain ⟨y, others, hxy, -, hy⟩ := hr
  exact ⟨y, by rw [hy, List.head?_cons], hxy⟩

private theorem perm_flatMap {α β γ : Type} {R : α → β → Prop} {xs : List α} {ys : List β}
    {f : α → List γ} {g : β → List γ} (h : List.Forall₂ R xs ys)
    (hfg : ∀ x ∈ xs, ∀ y, R x y → (f x).Perm (g y)) :
    (xs.flatMap f).Perm (ys.flatMap g) := by
  induction h with
  | nil => exact .nil
  | cons hxy _ ih =>
    rw [List.flatMap_cons, List.flatMap_cons]
    exact (hfg _ List.mem_cons_self _ hxy).append
      (ih fun x hm => hfg x (List.mem_cons_of_mem _ hm))

namespace Entered

variable {depth : Nat} {call : Call σ} {visit : Visit σ} {parts : List (Ledger σ)}
  {page : Ledger σ}

theorem exists_live {error : Error} (h : host.Entered info depth call visit parts page)
    (failed : (host.visitRun info (host.runPipeline info depth) visit).answer =
      some (.error error)) :
    ∃ failure, page.live = some failure := by
  cases h with
  | quiet raises =>
    have ha := host.visitRun_answer info _ visit failed
    rw [raises] at ha
    obtain ⟨value, hv⟩ := ha
    cases hv
  | raised _ _ _ => exact ⟨_, rfl⟩
  | passed _ _ _ => exact ⟨_, rfl⟩

/-- A failure of a step is one of a sub-pipeline, or the one that the step ends with. -/
theorem mem_parts_or_live (h : host.Entered info depth call visit parts page)
    {failure : Failure σ} (hm : failure ∈ page.all) :
    failure ∈ parts.flatMap Ledger.all ∨ page.live = some failure := by
  cases h with
  | quiet _ => simpa [Ledger.all] using hm
  | raised _ _ _ =>
    rw [Ledger.all, List.mem_append, Option.mem_toList] at hm
    exact hm
  | @passed before after ended _ left here _ _ =>
    subst here
    rw [Ledger.all, List.mem_append, Option.mem_toList] at hm
    refine hm.imp_left fun hm => ?_
    simp only [List.mem_append, List.flatMap_append, List.flatMap_cons, Ledger.all] at hm ⊢
    tauto

/-- The failure that a step ends with is one that the run of its scope fails with. -/
theorem failsWith (h : host.Entered info depth call visit parts page)
    (reached : visit ∈ host.scope info (host.runPipeline info depth) call)
    (hparts : ∀ part ∈ parts, ∀ failure, part.live = some failure →
      ∃ below ∈ host.calls info (host.runPipeline info depth) visit,
        host.FailsWith info depth below failure)
    {failure : Failure σ} (hl : page.live = some failure) :
    host.FailsWith info (depth + 1) call failure := by
  cases h with
  | quiet _ => cases hl
  | raised raises plain leaves =>
    cases hl
    exact .raised (host.scope_getLast? info _ call reached leaves) raises plain leaves
  | passed here raises leaves =>
    cases hl
    subst here
    obtain ⟨below, asked, failed⟩ :=
      hparts _ (List.mem_append_right _ List.mem_cons_self) _ rfl
    exact .passed (host.scope_getLast? info _ call reached leaves) asked failed raises leaves

/-- The alerts for the failures of a step are those for the failures of the sub-pipelines and the
alert that the step sends itself. -/
theorem alerts (h : host.Entered info depth call visit parts page)
    (hparts : ∀ part ∈ parts, ∀ failure, part.live = some failure →
      ∃ below, host.FailsWith info depth below failure) :
    (((parts.flatMap Ledger.all).filterMap (Failure.alert? info)) ++
        (host.ownAlert? info (host.runPipeline info depth) visit).toList).Perm
      (page.all.filterMap (Failure.alert? info)) := by
  have hlive : ∀ (ended : List (Failure σ)) (failure : Failure σ),
      (Ledger.all ⟨ended, some failure⟩).filterMap (Failure.alert? info) =
        ended.filterMap (Failure.alert? info) ++ (failure.alert? info).toList := by
    intro ended failure
    rw [Ledger.all, List.filterMap_append]
    cases hf : failure.alert? info <;> simp [hf]
  cases h with
  | quiet raises => simp [ownAlert?, raises, Ledger.all]
  | raised raises plain leaves =>
    rw [hlive, ownAlert?_of_plain raises plain leaves]
  | @passed before after ended failure left here raises leaves =>
    subst here
    obtain ⟨below, failed⟩ := hparts _ (List.mem_append_right _ List.mem_cons_self) _ rfl
    rw [hlive, alert?_past failed raises leaves]
    simp only [List.flatMap_append, List.flatMap_cons, List.filterMap_append, hlive,
      List.append_assoc]
    -- Only the alert of the failure that is handed on changes its place.
    refine (List.Perm.append_left _ (List.Perm.append_left _ ?_))
    rw [← List.append_assoc, ← List.append_assoc]
    exact List.perm_append_comm.append_right _

end Entered

namespace Books

variable {depth : Nat} {call : Call σ} {ledger : Ledger σ}

/-- The failure that a ledger ends with is one that the run fails with. -/
theorem live (h : host.Books info depth call ledger) {failure : Failure σ}
    (hl : ledger.live = some failure) : host.FailsWith info depth call failure := by
  induction depth generalizing call ledger failure with
  | zero => exact h.elim
  | succ depth ih =>
    obtain ⟨pages, rfl, hpages⟩ := h
    rw [Ledger.live_join] at hl
    obtain ⟨page, hlast, hlive⟩ := Option.bind_eq_some_iff.1 hl
    obtain ⟨visit, reached, parts, hparts, entered⟩ :=
      exists_mem_left hpages (List.mem_of_getLast? hlast)
    refine entered.failsWith reached (fun part hp failure hf => ?_) hlive
    obtain ⟨below, asked, books⟩ := exists_mem_left hparts hp
    exact ⟨below, asked, ih books hf⟩

/-- Every failure in a ledger is one that some run below fails with. -/
theorem exists_failsWith (h : host.Books info depth call ledger) :
    ∀ failure ∈ ledger.all, ∃ depth call, host.FailsWith info depth call failure := by
  induction depth generalizing call ledger with
  | zero => exact h.elim
  | succ depth ih =>
    obtain ⟨pages, rfl, hpages⟩ := h
    intro failure hm
    rw [Ledger.all_join] at hm
    obtain ⟨page, hp, hf⟩ := List.mem_flatMap.1 hm
    obtain ⟨visit, reached, parts, hparts, entered⟩ := exists_mem_left hpages hp
    rcases entered.mem_parts_or_live hf with hf | hl
    · obtain ⟨part, hpart, hf⟩ := List.mem_flatMap.1 hf
      obtain ⟨below, -, books⟩ := exists_mem_left hparts hpart
      exact ih books failure hf
    · refine ⟨depth + 1, call, entered.failsWith reached (fun part hp failure hf => ?_) hl⟩
      obtain ⟨below, asked, books⟩ := exists_mem_left hparts hp
      exact ⟨below, asked, books.live hf⟩

/-- A ledger ends with a failure just if the run does, and then it is that of the run. -/
theorem settled (h : host.Books info depth call ledger) {answer : Except Error Json}
    (answered : (call.run (host.runPipeline info depth)).answer = some answer) :
    (∀ value, answer = .ok value → ledger.live = none) ∧
      ∀ error, answer = .error error →
        ∃ failure, ledger.live = some failure ∧ failure.error = error := by
  cases hl : ledger.live with
  | some failure =>
    have ha := answered.symm.trans (h.live hl).answer
    cases ha
    refine ⟨nofun, fun error he => ?_⟩
    cases he
    exact ⟨failure, rfl, rfl⟩
  | none =>
    refine ⟨fun _ _ => rfl, fun error he => ?_⟩
    subst he
    cases depth with
    | zero => exact h.elim
    | succ depth =>
      obtain ⟨pages, rfl, hpages⟩ := h
      obtain ⟨earlier, visit, hscope, -, failed⟩ := host.scope_of_error info call answered
      have last : (host.scope info (host.runPipeline info depth) call).getLast? = some visit := by
        rw [hscope, List.getLast?_concat]
      obtain ⟨page, hlast, parts, -, entered⟩ := exists_getLast? hpages last
      obtain ⟨failure, hlive⟩ := entered.exists_live failed
      rw [Ledger.live_join, hlast, Option.bind_some, hlive] at hl
      cases hl

/-- The alerts that a run sends are those for the failures in its ledger. -/
theorem alerts (h : host.Books info depth call ledger) {answer : Except Error Json}
    (answered : (call.run (host.runPipeline info depth)).answer = some answer) :
    (Event.alerts (call.run (host.runPipeline info depth)).events).Perm
      (ledger.all.filterMap (Failure.alert? info)) := by
  induction depth generalizing call ledger answer with
  | zero => exact h.elim
  | succ depth ih =>
    obtain ⟨pages, rfl, hpages⟩ := h
    rw [← Event.alerts_reports, reports_run, Event.alerts_flatMap, Ledger.all_join,
      List.filterMap_flatMap]
    refine perm_flatMap hpages fun visit reached page ⟨parts, hparts, entered⟩ => ?_
    obtain ⟨left, hleft⟩ := host.answered_of_mem_scope info call answered visit reached
    rw [Event.alerts_reports, alerts_visitRun hleft]
    have hbelow : ((host.calls info (host.runPipeline info depth) visit).flatMap fun below =>
        Event.alerts (below.run (host.runPipeline info depth)).events).Perm
        ((parts.flatMap Ledger.all).filterMap (Failure.alert? info)) := by
      rw [List.filterMap_flatMap]
      refine perm_flatMap hparts fun below asked part books => ?_
      obtain ⟨first, hfirst⟩ := host.answered_of_mem_stepCalls info _ hleft below asked
      exact ih books hfirst
    refine (hbelow.append_right _).trans (entered.alerts fun part hp failure hf => ?_)
    obtain ⟨below, -, books⟩ := exists_mem_left hparts hp
    exact ⟨below, books.live hf⟩

end Books

/-- Every run with an answer has a ledger of its failures. -/
theorem exists_books (plain : host.registry.RaisesPlain) {depth : Nat} (call : Call σ)
    {answer : Except Error Json}
    (answered : (call.run (host.runPipeline info depth)).answer = some answer) :
    ∃ ledger, host.Books info depth call ledger := by
  induction depth generalizing call answer with
  | zero => cases answered
  | succ depth ih =>
    have hpages : ∀ visit ∈ host.scope info (host.runPipeline info depth) call, ∃ page, ∃ parts,
        List.Forall₂ (host.Books info depth) (host.calls info (host.runPipeline info depth) visit)
          parts ∧ host.Entered info depth call visit parts page := by
      intro visit reached
      obtain ⟨left, hleft⟩ := host.answered_of_mem_scope info call answered visit reached
      have hbelow := host.answered_of_mem_stepCalls info _ hleft
      obtain ⟨parts, hparts⟩ := exists_forall₂ fun below asked =>
        (hbelow below asked).elim fun first hfirst => ih below hfirst
      cases raises : host.raised? info (host.runPipeline info depth) visit with
      | none => exact ⟨_, parts, hparts, .quiet raises⟩
      | some cause =>
        have leaves := host.visitRun_of_raised info _ raises
        -- A failure with a layer is that of a sub-pipeline, whose ledger ends with it.
        rcases raised_plain_or_below plain _ raises with hcause | ⟨below, asked, hfailed⟩
        · exact ⟨_, parts, hparts, .raised raises hcause leaves⟩
        · obtain ⟨⟨ended, live⟩, hpart, books⟩ := exists_mem_right hparts asked
          obtain ⟨failure, rfl, rfl⟩ := (books.settled hfailed).2 _ rfl
          obtain ⟨before, after, here⟩ := List.append_of_mem hpart
          exact ⟨_, parts, hparts, .passed here raises leaves⟩
    obtain ⟨pages, hpages⟩ := exists_forall₂ hpages
    exact ⟨.join pages, pages, rfl, hpages⟩

variable (host info)

/-- If no brick puts a context layer on a failure itself, then each failure of a run accounts for
exactly one alert if the run belongs to a deployment and one of the steps that the failure has left
asks for alerts, and for none otherwise; these are all alerts of the run. Wherever a failure is
seen, its mark tells whether that alert was sent by then. -/
theorem runPipeline_alerts (plain : host.registry.RaisesPlain) (depth : Nat) (steps : Pipeline)
    (ctx : Context) (state : σ) {answer : Except Error Json}
    (answered : (host.runPipeline info depth steps ctx state).answer = some answer) :
    (∃ ledger, host.Books info depth (.root steps ctx state) ledger) ∧
      ∀ ledger, host.Books info depth (.root steps ctx state) ledger →
        (Event.alerts (host.runPipeline info depth steps ctx state).events).Perm
          (ledger.all.filterMap (Failure.alert? info)) ∧
        (∀ failure ∈ ledger.all,
          (∃ depth call, host.FailsWith info depth call failure) ∧
          (failure.alert? info).isSome =
            (info.deploymentId.isSome && failure.stages.any (·.step.alerts)) ∧
          failure.error.isAlerted = (failure.alert? info).isSome ∧
          ∀ earlier stage later, failure.stages = earlier ++ stage :: later →
            stage.error.isAlerted =
              (info.deploymentId.isSome && (earlier ++ [stage]).any (·.step.alerts))) ∧
        (∀ value, answer = .ok value → ledger.live = none) ∧
        ∀ error, answer = .error error →
          ∃ failure, ledger.live = some failure ∧ failure.error = error := by
  refine ⟨exists_books plain (.root steps ctx state) answered, fun ledger books => ?_⟩
  refine ⟨books.alerts answered, fun failure hm => ?_, books.settled answered⟩
  obtain ⟨below, call, failed⟩ := books.exists_failsWith failure hm
  exact ⟨⟨below, call, failed⟩, failure.isSome_alert? info, failed.isAlerted_error,
    fun earlier stage later hs => failed.isAlerted hs⟩

theorem runPipeline_alerts_sample :
    ∃ error ledger, Sample.ran.answer = some (.error error) ∧
      Sample.host.Books Sample.info 2 (.root Sample.steps .empty ()) ledger ∧
      (Event.alerts Sample.ran.events).Perm
        (ledger.all.filterMap (Failure.alert? Sample.info)) := by
  obtain ⟨error, answered⟩ := Sample.ran_answer
  obtain ⟨⟨ledger, books⟩, hall⟩ :=
    Sample.host.runPipeline_alerts Sample.info Registry.raisesPlain_standard 2 Sample.steps .empty
      () answered
  exact ⟨error, ledger, answered, books, (hall ledger books).1⟩

end Host

end BrickPipeline
