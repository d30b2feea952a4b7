import BrickPipeline.Proofs.History
import Mathlib.Algebra.GroupWithZero.Nat
import Mathlib.Data.List.Basic

/-!
Repeated attempts. They are made one after the other, numbered from zero, until one does not fail or
as many as allowed have failed. Between two of them stands one wait, as long as the policy says, and
there is none behind the last.
-/
namespace BrickPipeline

variable {σ α : Type}

/-- The failure that a computation has answered with, if it has. -/
def Ran.failure? (ran : Ran σ (Except Error α)) : Option Error :=
  match ran.answer with
  | some (.error error) => some error
  | _ => none

theorem Ran.failure?_eq_some_iff {ran : Ran σ (Except Error α)} {error : Error} :
    ran.failure? = some error ↔ ran.answer = some (.error error) := by
  rcases ran with ⟨events, state, _ | _ | value⟩ <;> simp [failure?]

namespace Event

/-- The time that events take, in nanoseconds: that of the waits among them. -/
def elapsed (events : List Event) : Nat := ((waits events).map Duration.nanos).sum

@[simp] theorem elapsed_append (xs ys : List Event) :
    elapsed (xs ++ ys) = elapsed xs + elapsed ys := by
  simp [elapsed]

theorem waits_flatMap {β : Type} (xs : List β) (f : β → List Event) :
    waits (xs.flatMap f) = xs.flatMap fun x => waits (f x) := List.filterMap_flatMap ..

theorem elapsed_flatMap {β : Type} (xs : List β) (f : β → List Event) :
    elapsed (xs.flatMap f) = (xs.map fun x => elapsed (f x)).sum := by
  induction xs with
  | nil => rfl
  | cons x xs ih => rw [List.flatMap_cons, elapsed_append, ih, List.map_cons, List.sum_cons]

end Event

namespace Attempts

section Series

variable (attempt : Nat → Routine σ (Except Error α)) (nested : Runner σ)
  (span : Option Log.Span) (ctx : Context)

/-- The run of an attempt when it and all those before it are made. -/
def nth (state : σ) : Nat → Ran σ (Except Error α)
  | 0 => (attempt 0).exec nested span ctx state
  | n + 1 => (attempt (n + 1)).exec nested span ctx (nth state n).state

/-- Leaving out the first attempt is starting where it has ended. -/
theorem nth_succ (state : σ) (n : Nat) :
    nth attempt nested span ctx state (n + 1) =
      nth (fun n => attempt (n + 1)) nested span ctx
        ((attempt 0).exec nested span ctx state).state n := by
  induction n with
  | zero => rfl
  | succ n ih =>
    rw [nth, ih]
    rfl

end Series

/-- What happens between an attempt that has failed and the next one. -/
def pause (policy : Backoff) (label : String) (maxAttempts : Nat) (span : Option Log.Span)
    (failures : Nat) (ran : Ran σ (Except Error α)) : List Event :=
  match ran.failure? with
  | none => []
  | some error =>
    [.log ⟨retrying label maxAttempts failures (policy.delay failures) error, span⟩,
      .wait (policy.delay failures)]

/-- What happens behind the last attempt: a failure is given up on. -/
def ending (label : String) (span : Option Log.Span) (failures : Nat)
    (ran : Ran σ (Except Error α)) : List Event :=
  match ran.failure? with
  | none => []
  | some _ => [.log ⟨givingUp label failures, span⟩]

theorem waits_pause (policy : Backoff) (label : String) (maxAttempts : Nat)
    (span : Option Log.Span) (failures : Nat) {ran : Ran σ (Except Error α)}
    (h : ran.failure?.isSome = true) :
    Event.waits (pause policy label maxAttempts span failures ran) = [policy.delay failures] := by
  obtain ⟨error, he⟩ := Option.isSome_iff_exists.1 h
  rw [pause, he]
  rfl

theorem waits_ending (label : String) (span : Option Log.Span) (failures : Nat)
    (ran : Ran σ (Except Error α)) : Event.waits (ending label span failures ran) = [] := by
  unfold ending
  split <;> rfl

theorem elapsed_pause (policy : Backoff) (label : String) (maxAttempts : Nat)
    (span : Option Log.Span) (failures : Nat) {ran : Ran σ (Except Error α)}
    (h : ran.failure?.isSome = true) :
    Event.elapsed (pause policy label maxAttempts span failures ran) =
      (policy.delay failures).nanos := by
  rw [Event.elapsed, waits_pause _ _ _ _ _ h]
  exact Nat.add_zero _

theorem ending_of_settled (label : String) (span : Option Log.Span) (failures : Nat)
    {ran : Ran σ (Except Error α)} (h : ran.failure? = none) :
    ending label span failures ran = [] := by
  rw [ending, h]

theorem elapsed_ending (label : String) (span : Option Log.Span) (failures : Nat)
    (ran : Ran σ (Except Error α)) : Event.elapsed (ending label span failures ran) = 0 := by
  rw [Event.elapsed, waits_ending]
  rfl

/-- What repeated attempts come to, told by the runs that the attempts have if they are made, and by
what happens between them and at the end. The attempts from the first to the last are made, each
once and in order: all but the last have failed, and it has not, or it was the last to spare. -/
structure Course (nth : Nat → Ran σ (Except Error α)) (pause ending : Nat → List Event)
    (spare last : Nat) (ran : Ran σ (Except Error α)) : Prop where
  within : last ≤ spare
  failed : ∀ n < last, (nth n).failure?.isSome = true
  settled : (nth last).failure? = none ∨ last = spare
  answer : ran.answer = (nth last).answer
  state : ran.state = (nth last).state
  events : ran.events = (List.range last).flatMap (fun n => (nth n).events ++ pause n) ++
    (nth last).events ++ ending last

namespace Course

variable {nth : Nat → Ran σ (Except Error α)} {pause ending : Nat → List Event}
  {spare last : Nat} {ran : Ran σ (Except Error α)}

/-- A first attempt that does not fail is the last. -/
theorem of_settled (settled : (nth 0).failure? = none) (still : ending 0 = []) :
    Course nth pause ending spare 0 (nth 0) where
  within := Nat.zero_le spare
  failed := nofun
  settled := Or.inl settled
  answer := rfl
  state := rfl
  events := by
    rw [still]
    exact (List.append_nil _).symm

/-- So is one that has none to spare. -/
theorem of_spent :
    Course nth pause ending 0 0 ⟨(nth 0).events ++ ending 0, (nth 0).state, (nth 0).answer⟩ where
  within := Nat.le_refl 0
  failed := nofun
  settled := Or.inr rfl
  answer := rfl
  state := rfl
  events := rfl

/-- Behind a first attempt that has failed comes a pause, and then the course of the others. -/
theorem again (failed : (nth 0).failure?.isSome = true)
    (rest : Course (fun n => nth (n + 1)) (fun n => pause (n + 1)) (fun n => ending (n + 1))
      spare last ran) :
    Course nth pause ending (spare + 1) (last + 1)
      ⟨(nth 0).events ++ (pause 0 ++ ran.events), ran.state, ran.answer⟩ where
  within := Nat.succ_le_succ rest.within
  failed := by
    intro n hn
    cases n with
    | zero => exact failed
    | succ n => exact rest.failed n (Nat.lt_of_succ_lt_succ hn)
  settled := rest.settled.imp_right (congrArg (· + 1))
  answer := rest.answer
  state := rest.state
  events := by
    have hshift : (List.range (last + 1)).flatMap (fun n => (nth n).events ++ pause n) =
        (nth 0).events ++ pause 0 ++
          (List.range last).flatMap fun n => (nth (n + 1)).events ++ pause (n + 1) := by
      rw [List.range_succ_eq_map, List.flatMap_cons, List.flatMap_map]
    rw [rest.events, hshift]
    simp only [List.append_assoc]

/-- The time from the start to that of an attempt that was made: all attempts before it and the
pauses behind them have gone by. -/
theorem start (course : Course nth pause ending spare last ran) {n : Nat} (hn : n ≤ last) :
    ∃ earlier later, ran.events = earlier ++ (nth n).events ++ later ∧
      Event.elapsed earlier = ((List.range n).map fun i =>
        Event.elapsed (nth i).events + Event.elapsed (pause i)).sum := by
  have hearlier : Event.elapsed ((List.range n).flatMap fun i => (nth i).events ++ pause i) =
      ((List.range n).map fun i =>
        Event.elapsed (nth i).events + Event.elapsed (pause i)).sum := by
    simp only [Event.elapsed_flatMap, Event.elapsed_append]
  obtain ⟨left, rfl⟩ := Nat.exists_eq_add_of_le hn
  have hevents := course.events
  rw [List.range_add, List.flatMap_append, List.flatMap_map] at hevents
  cases left with
  | zero => exact ⟨_, ending n, by simpa using hevents, hearlier⟩
  | succ left =>
    rw [List.range_succ_eq_map, List.flatMap_cons] at hevents
    exact ⟨_, _, by simpa only [Nat.add_zero, List.append_assoc] using hevents, hearlier⟩

/-- The time of them all: no pause is behind the last attempt. -/
theorem elapsed (course : Course nth pause ending spare last ran) :
    Event.elapsed ran.events =
      ((List.range last).map fun i =>
        Event.elapsed (nth i).events + Event.elapsed (pause i)).sum +
          Event.elapsed (nth last).events + Event.elapsed (ending last) := by
  rw [course.events]
  simp only [Event.elapsed_append, Event.elapsed_flatMap]

end Course

section Run

variable (attempt : Nat → Routine σ (Except Error α)) (nested : Runner σ)
  (span : Option Log.Span) (ctx : Context) (policy : Backoff) (label : String) (maxAttempts : Nat)

/-- Attempts from a number on end with the first of them if it does not fail. -/
theorem exec_remaining_of_settled (spare : Nat) {failures : Nat} {state : σ}
    (settled : ((attempt failures).exec nested span ctx state).failure? = none) :
    (remaining attempt policy label maxAttempts spare failures).exec nested span ctx state =
      (attempt failures).exec nested span ctx state := by
  rw [remaining, Routine.exec_bind]
  rcases hr : (attempt failures).exec nested span ctx state with ⟨events, left, _ | error | value⟩
  · rw [Exec.bind_apply_of_none (by rw [hr]), hr]
  · rw [hr] at settled
    cases settled
  · have ha : ((attempt failures).exec nested span ctx state).answer = some (.ok value) := by rw [hr]
    rw [Exec.bind_apply_of_answer ha, hr]
    simp [Routine.exec, Exec.done]

/-- Behind an attempt that has failed, the last to spare is given up on, and else comes a pause and
then the others. -/
theorem exec_remaining_of_failed {failures : Nat} {state : σ}
    (failed : ((attempt failures).exec nested span ctx state).failure?.isSome = true) :
    let ran := (attempt failures).exec nested span ctx state
    (remaining attempt policy label maxAttempts 0 failures).exec nested span ctx state =
        ⟨ran.events ++ ending label span (failures + 1) ran, ran.state, ran.answer⟩ ∧
      ∀ spare, (remaining attempt policy label maxAttempts (spare + 1) failures).exec nested span
          ctx state =
        let rest := (remaining attempt policy label maxAttempts spare (failures + 1)).exec nested
          span ctx ran.state
        ⟨ran.events ++ (pause policy label maxAttempts span (failures + 1) ran ++ rest.events),
          rest.state, rest.answer⟩ := by
  obtain ⟨error, he⟩ := Option.isSome_iff_exists.1 failed
  have ha := Ran.failure?_eq_some_iff.1 he
  intro ran
  have hpause : pause policy label maxAttempts span (failures + 1) ran =
      [.log ⟨retrying label maxAttempts (failures + 1) (policy.delay (failures + 1)) error, span⟩,
        .wait (policy.delay (failures + 1))] := by rw [pause, he]
  have hending : ending label span (failures + 1) ran =
      [.log ⟨givingUp label (failures + 1), span⟩] := by rw [ending, he]
  refine ⟨?_, fun spare => ?_⟩
  · rw [remaining, Routine.exec_bind, Exec.bind_apply_of_answer ha, hending, ha]
    rfl
  · rw [remaining, Routine.exec_bind, Exec.bind_apply_of_answer ha, hpause]
    rfl

/-- Attempts from a number on take their course. -/
theorem exists_course (spare failures : Nat) (state : σ) :
    let run := nth (fun n => attempt (failures + n)) nested span ctx state
    ∃ last, Course run
      (fun n => pause policy label maxAttempts span (failures + n + 1) (run n))
      (fun n => ending label span (failures + n + 1) (run n)) spare last
      ((remaining attempt policy label maxAttempts spare failures).exec nested span ctx state) := by
  induction spare generalizing failures state with
  | zero =>
    intro run
    cases hf : ((attempt failures).exec nested span ctx state).failure? with
    | none =>
      rw [exec_remaining_of_settled attempt nested span ctx policy label maxAttempts 0 hf]
      exact ⟨0, .of_settled hf (ending_of_settled label span _ hf)⟩
    | some error =>
      have failed := Option.isSome_of_eq_some hf
      rw [(exec_remaining_of_failed attempt nested span ctx policy label maxAttempts failed).1]
      exact ⟨0, .of_spent⟩
  | succ spare ih =>
    intro run
    cases hf : ((attempt failures).exec nested span ctx state).failure? with
    | none =>
      rw [exec_remaining_of_settled attempt nested span ctx policy label maxAttempts _ hf]
      exact ⟨0, .of_settled hf (ending_of_settled label span _ hf)⟩
    | some error =>
      have failed := Option.isSome_of_eq_some hf
      obtain ⟨last, course⟩ := ih (failures + 1)
        ((attempt failures).exec nested span ctx state).state
      rw [(exec_remaining_of_failed attempt nested span ctx policy label maxAttempts failed).2]
      -- The others are counted from one further on.
      have hindex (n : Nat) : failures + 1 + n = failures + (n + 1) := by omega
      simp only [hindex] at course
      refine ⟨last + 1, .again failed ?_⟩
      simp only [run, nth_succ]
      exact course

/-- The waits of repeated attempts are those of the attempts and, behind each of them but the last,
one as long as the policy says. All but the last have failed, and it has not, or as many as allowed
were made. -/
theorem waits_untilSuccess (state : σ) :
    let run := nth attempt nested span ctx state
    ∃ last < max 1 maxAttempts, (∀ n < last, (run n).failure?.isSome = true) ∧
      ((run last).failure? = none ∨ last + 1 = max 1 maxAttempts) ∧
      Event.waits
          ((untilSuccess attempt maxAttempts policy label).exec nested span ctx state).events =
        (List.range last).flatMap
            (fun n => Event.waits (run n).events ++ [policy.delay (n + 1)]) ++
          Event.waits (run last).events := by
  intro run
  obtain ⟨last, course⟩ := exists_course attempt nested span ctx policy label (max 1 maxAttempts)
    (max 1 maxAttempts - 1) 0 state
  simp only [Nat.zero_add] at course
  have hwithin := course.within
  have hspent : last = max 1 maxAttempts - 1 → last + 1 = max 1 maxAttempts := by omega
  refine ⟨last, by omega, course.failed, course.settled.imp_right hspent, ?_⟩
  have hpauses : (List.range last).flatMap (fun n => Event.waits ((run n).events ++
        pause policy label (max 1 maxAttempts) span (n + 1) (run n))) =
      (List.range last).flatMap fun n => Event.waits (run n).events ++ [policy.delay (n + 1)] := by
    refine List.flatMap_congr fun n hn => ?_
    rw [Event.waits_append, waits_pause _ _ _ _ _ (course.failed n (List.mem_range.1 hn))]
  rw [untilSuccess, course.events, Event.waits_append, Event.waits_append, Event.waits_flatMap,
    hpauses, waits_ending, List.append_nil]

/-- Repeated attempts take the course that was promised. Those from number zero to a last one are
made, each once and in order, and no others: the last is the first that does not fail, or as many as
allowed have failed, which is one at least. The answer is that of the last, be it a value or its
failure as it was raised. Attempt `n` starts when the attempts before it and the waits after the
failures `1` to `n` are over, and behind the last there is no wait. -/
theorem untilSuccess_course (state : σ) :
    let run := nth attempt nested span ctx state
    let ran := (untilSuccess attempt maxAttempts policy label).exec nested span ctx state
    let before (n : Nat) := ((List.range n).map fun i =>
      Event.elapsed (run i).events + (policy.delay (i + 1)).nanos).sum
    ∃ last,
      Course run (fun n => pause policy label (max 1 maxAttempts) span (n + 1) (run n))
          (fun n => ending label span (n + 1) (run n)) (max 1 maxAttempts - 1) last ran ∧
        (∀ n ≤ last, ∃ earlier later, ran.events = earlier ++ (run n).events ++ later ∧
          Event.elapsed earlier = before n) ∧
        Event.elapsed ran.events = before last + Event.elapsed (run last).events := by
  intro run ran before
  obtain ⟨last, course⟩ := exists_course attempt nested span ctx policy label (max 1 maxAttempts)
    (max 1 maxAttempts - 1) 0 state
  simp only [Nat.zero_add] at course
  have hbefore (n : Nat) (hn : n ≤ last) : ((List.range n).map fun i =>
      Event.elapsed (run i).events +
        Event.elapsed (pause policy label (max 1 maxAttempts) span (i + 1) (run i))).sum =
          before n := by
    refine congrArg List.sum (List.map_congr_left fun i hi => ?_)
    have hfailed := course.failed i (Nat.lt_of_lt_of_le (List.mem_range.1 hi) hn)
    rw [elapsed_pause policy label (max 1 maxAttempts) span (i + 1) hfailed]
  refine ⟨last, course, fun n hn => ?_, ?_⟩
  · obtain ⟨earlier, later, hevents, htime⟩ := course.start hn
    exact ⟨earlier, later, hevents, htime.trans (hbefore n hn)⟩
  · have htime := course.elapsed
    rw [elapsed_ending, Nat.add_zero] at htime
    exact htime.trans (congrArg (· + _) (hbefore last (Nat.le_refl last)))

end Run

end Attempts
end BrickPipeline
