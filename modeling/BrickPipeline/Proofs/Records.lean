import BrickPipeline.Proofs.History
import Mathlib.Data.List.Basic

/-!
Trace records. Every step that a run reaches leaves exactly one record of its own, behind the
records of what its brick ran, and the answer of a run can be read off its own records.
-/
namespace BrickPipeline

variable {σ : Type}

/-- The value that a record tells of, if it tells of one. -/
def Trace.Record.output? (made : Trace.Record) : Option Json :=
  match made.outcome with
  | .output value => some value
  | _ => none

/-- The value of the last record of a value, null if there is none. -/
def Trace.lastOutput (made : List Trace.Record) : Json :=
  ((made.filterMap Trace.Record.output?).getLast?).getD .null

namespace Host

variable (host : Host σ) (info : RunInfo) (nested : Runner σ)

/-- The records of the sub-pipelines that the brick of a step ran. -/
def recordsBelow (visit : Visit σ) : List Trace.Record :=
  (host.calls info nested visit).flatMap fun call => Event.records (call.run nested).events

/-- The record of a step that was reached, for the answer that it had. -/
def ownRecord (visit : Visit σ) : Trace.Record :=
  record info visit.step visit.index (host.renderedArgs info visit)
    (outcome (((host.visitRun info nested visit).answer).getD (.ok none)))

theorem ownRecord_of_answer (visit : Visit σ) {answer : Except Error (Option Json)}
    (h : (host.visitRun info nested visit).answer = some answer) :
    host.ownRecord info nested visit =
      record info visit.step visit.index (host.renderedArgs info visit) (outcome answer) := by
  simp [ownRecord, h]

theorem records_visitRun (visit : Visit σ) {answer : Except Error (Option Json)}
    (h : (host.visitRun info nested visit).answer = some answer) :
    Event.records (host.visitRun info nested visit).events =
      host.recordsBelow info nested visit ++ [host.ownRecord info nested visit] := by
  have hr := congrArg Event.records (host.reports_visitRun info nested visit h)
  simp only [Event.records_reports, Event.records_append, Event.records_flatMap] at hr
  rw [hr, ownRecord_of_answer host info nested visit h]
  have ha : Event.records ((host.ownAlert? info nested visit).toList.map Event.alert) = [] := by
    cases host.ownAlert? info nested visit <;> rfl
  rw [ha, List.append_nil]
  rfl

/-- A step without a value and without a failure was skipped: its brick never ran. -/
theorem calls_of_skipped (visit : Visit σ)
    (h : (host.visitRun info nested visit).answer = some (.ok none)) :
    host.calls info nested visit = [] := by
  unfold calls
  cases host.passage info nested visit with
  | refused _ leaves _ =>
    rw [leaves] at h
    cases h
  | skipped prepared _ _ => rw [prepared]
  | tooDeep _ _ leaves =>
    rw [leaves] at h
    cases h
  | failed _ _ leaves _ =>
    rw [leaves] at h
    cases h
  | completed _ _ leaves _ =>
    rw [leaves] at h
    cases h

theorem isError_ownRecord_of_ok (visit : Visit σ) {value : Option Json}
    (h : (host.visitRun info nested visit).answer = some (.ok value)) :
    (host.ownRecord info nested visit).isError = false := by
  rw [ownRecord_of_answer host info nested visit h]
  cases value <;> rfl

theorem output?_ownRecord_of_ok (visit : Visit σ) {value : Option Json}
    (h : (host.visitRun info nested visit).answer = some (.ok value)) :
    (host.ownRecord info nested visit).output? = host.value? info nested visit := by
  rw [ownRecord_of_answer host info nested visit h]
  cases value <;> simp [value?, h, outcome, record, Trace.Record.output?]

theorem records_runSteps {steps : Pipeline} {index : Nat} {ctx : Context} {running : Json}
    {state : σ}
    (answered : ∀ visit ∈ host.visits info nested steps index ctx running state,
      ∃ answer, (host.visitRun info nested visit).answer = some answer) (last : Json) :
    Event.records (host.runSteps info nested steps index ctx running last state).events =
      (host.visits info nested steps index ctx running state).flatMap fun visit =>
        host.recordsBelow info nested visit ++ [host.ownRecord info nested visit] := by
  rw [← Event.records_reports, reports_runSteps, Event.records_flatMap]
  refine List.flatMap_congr fun visit hm => ?_
  obtain ⟨left, hl⟩ := answered visit hm
  rw [Event.records_reports, host.records_visitRun info nested visit hl]

theorem records_run {depth : Nat} (call : Call σ) {answer : Except Error Json}
    (h : (call.run (host.runPipeline info (depth + 1))).answer = some answer) :
    Event.records (call.run (host.runPipeline info (depth + 1))).events =
      (host.scope info (host.runPipeline info depth) call).flatMap fun visit =>
        host.recordsBelow info (host.runPipeline info depth) visit ++
          [host.ownRecord info (host.runPipeline info depth) visit] :=
  host.records_runSteps info _ (host.answered_of_mem_scope info call h) .null

theorem lastOutput_ownRecords {visits : List (Visit σ)}
    (h : ∀ visit ∈ visits, ∃ left, (host.visitRun info nested visit).answer = some (.ok left)) :
    Trace.lastOutput (visits.map (host.ownRecord info nested)) =
      ((visits.filterMap (host.value? info nested)).getLast?).getD .null := by
  have ho : (visits.map (host.ownRecord info nested)).filterMap Trace.Record.output? =
      visits.filterMap (host.value? info nested) := by
    rw [List.filterMap_map]
    refine List.filterMap_congr fun visit hm => ?_
    obtain ⟨left, hl⟩ := h visit hm
    exact host.output?_ownRecord_of_ok info nested visit hl
  rw [Trace.lastOutput, ho]

/-- The records of a run that has answered are, for each step that it reached, the records of what
the brick of the step ran and then exactly one for the step itself. If the run succeeds it has
reached all its steps, none of its own records tells of a failure, and its answer is the last value
that they tell of. If it fails, the last of its own records tells of the failure and no other does,
and nothing is recorded after it. -/
theorem runPipeline_records (depth : Nat) (steps : Pipeline) (ctx : Context) (state : σ)
    {answer : Except Error Json}
    (answered : (host.runPipeline info (depth + 1) steps ctx state).answer = some answer) :
    let nested := host.runPipeline info depth
    let reached := host.scope info nested (.root steps ctx state)
    ∃ own : List Trace.Record,
      own.length = reached.length ∧
      Event.records (host.runPipeline info (depth + 1) steps ctx state).events =
        (List.zipWith (fun visit made => host.recordsBelow info nested visit ++ [made])
          reached own).flatten ∧
      (∀ (i : Nat) (visit : Visit σ) (made : Trace.Record),
        reached[i]? = some visit → own[i]? = some made →
        steps[i]? = some visit.step ∧ made.index = i ∧ made.brickId = visit.step.id ∧
          (made.outcome = .skipped → host.recordsBelow info nested visit = [])) ∧
      (∀ value, answer = .ok value →
        reached.length = steps.length ∧ (∀ made ∈ own, made.isError = false) ∧
          value = Trace.lastOutput own) ∧
      ∀ error, answer = .error error →
        ∃ earlier last, own = earlier ++ [last] ∧ last.outcome = .error error.toJson ∧
          ∀ made ∈ earlier, made.isError = false := by
  intro nested reached
  have hanswered := host.answered_of_mem_scope info (.root steps ctx state) answered
  refine ⟨reached.map (host.ownRecord info nested), by simp, ?_, ?_, ?_, ?_⟩
  · rw [List.zipWith_map_right, List.zipWith_self, ← List.flatMap_def]
    exact host.records_run info (.root steps ctx state) answered
  · intro i visit made hv hm
    obtain rfl : host.ownRecord info nested visit = made := by simpa [hv] using hm
    obtain ⟨hs, hi⟩ := host.scope_getElem? info nested (.root steps ctx state) hv
    refine ⟨hs, hi, rfl, fun hskipped => ?_⟩
    obtain ⟨left, hl⟩ := hanswered visit (List.mem_of_getElem? hv)
    rw [ownRecord_of_answer host info nested visit hl] at hskipped
    rcases left with error | _ | value
    · cases hskipped
    · rw [recordsBelow, host.calls_of_skipped info nested visit hl, List.flatMap_nil]
    · cases hskipped
  · rintro value rfl
    obtain ⟨hs, hok, hv⟩ := host.scope_of_ok info (.root steps ctx state) answered
    refine ⟨by rw [← List.length_map, hs, Call.root], ?_, ?_⟩
    · intro made hm
      obtain ⟨visit, hvisit, rfl⟩ := List.mem_map.1 hm
      obtain ⟨left, hl⟩ := hok visit hvisit
      exact host.isError_ownRecord_of_ok info nested visit hl
    · rw [hv, ← host.lastOutput_ownRecords info nested hok]
  · rintro error rfl
    obtain ⟨earlier, last, hv, hok, he⟩ :=
      host.scope_of_error info (.root steps ctx state) answered
    have hreached : reached = earlier ++ [last] := hv
    refine ⟨earlier.map (host.ownRecord info nested), host.ownRecord info nested last, ?_, ?_, ?_⟩
    · rw [hreached, List.map_append, List.map_singleton]
    · rw [ownRecord_of_answer host info nested last he]
      rfl
    · intro made hm
      obtain ⟨visit, hvisit, rfl⟩ := List.mem_map.1 hm
      obtain ⟨left, hl⟩ := hok visit hvisit
      exact host.isError_ownRecord_of_ok info nested visit hl

theorem runPipeline_records_sample :
    ∃ error own earlier last, Sample.ran.answer = some (.error error) ∧
      Event.records Sample.ran.events =
        (List.zipWith
          (fun visit made =>
            Sample.host.recordsBelow Sample.info (Sample.host.runPipeline Sample.info 1) visit ++
              [made])
          (Sample.host.scope Sample.info (Sample.host.runPipeline Sample.info 1)
            (.root Sample.steps .empty ())) own).flatten ∧
      own = earlier ++ [last] ∧ last.outcome = .error error.toJson := by
  obtain ⟨error, answered⟩ := Sample.ran_answer
  obtain ⟨own, -, hrecords, -, -, hfailed⟩ :=
    Sample.host.runPipeline_records Sample.info 1 Sample.steps .empty () answered
  obtain ⟨earlier, last, hown, hlast, -⟩ := hfailed error rfl
  exact ⟨error, own, earlier, last, answered, hrecords, hown, hlast⟩

end Host
end BrickPipeline
