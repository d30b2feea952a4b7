import BrickPipeline.Proofs.Direct

/-!
Control-flow bricks. Given what a control-flow brick reads as its sub-pipelines, running the routine
of the brick is running it directly.
-/
namespace BrickPipeline

open Arguments

variable {σ α : Type}

/-- A routine that runs no pipeline does not depend on how pipelines are run. -/
theorem Routine.exec_of_callFree {routine : Routine σ α} (h : routine.CallFree)
    (nested other : Runner σ) (span : Option Log.Span) (ctx : Context) :
    routine.exec nested span ctx = routine.exec other span ctx := by
  induction routine with
  | done _ => rfl
  | log _ _ ih => rw [exec, exec, ih h]
  | wait _ _ ih => rw [exec, exec, ih h]
  | call _ _ _ => exact h.elim
  | get _ ih =>
    funext state
    exact congrFun (ih state (h state)) state
  | set _ _ ih => rw [exec, exec, ih h]

namespace Direct

/-- A sub-pipeline below a way to run pipelines. -/
def below (nested : Runner σ) (sub : SubPipeline) : Body σ := fun ctx bindings =>
  nested sub.steps ((sub.environment.getD ctx).bindAll bindings)

variable (nested : Runner σ) (span : Option Log.Span) (ctx : Context) {args : Json}
  {body? : String → Option (Body σ)} {sub? : String → Option SubPipeline}

theorem subPipeline_of {id : BrickId} {name : String}
    (hs : subPipeline? id args name = .ok (sub? name)) :
    subPipeline id args name = match sub? name with
      | some sub => .ok sub
      | none => .error (missing id name) := by
  unfold subPipeline
  rw [hs]
  cases sub? name <;> rfl

theorem exec_ifElse (hs : ∀ name ∈ ["if", "else"],
      subPipeline? Brick.Branch.id args name = .ok (sub? name))
    (hb : ∀ name ∈ ["if", "else"], body? name = (sub? name).map (below nested)) :
    (Brick.Branch.run args : Routine σ _).exec nested span ctx = ifElse span ctx args body? := by
  have hif := hb "if" (by simp)
  have helse := hb "else" (by simp)
  have hsif := subPipeline_of (hs "if" (by simp))
  have hselse := hs "else" (by simp)
  unfold Brick.Branch.run Brick.Branch.select ifElse
  simp only [Routine.exec, Exec.bind_eq, Exec.pure_eq]
  congr 1
  funext _
  by_cases hc : (args.get? "condition").any Json.isTruthy = true
  · rw [if_pos hc, if_pos hc, hif, hsif]
    cases sub? "if" with
    | none => simp [hc]; rfl
    | some sub => exact Exec.bind_done _
  · rw [if_neg hc, if_neg hc, helse, hselse]
    cases sub? "else" with
    | none => simp [hc]; rfl
    | some sub => exact Exec.bind_done _

theorem exec_each (sub : SubPipeline) (key : String) (elements : List Json) (index : Nat)
    (last : Json) :
    (Brick.Loop.each sub key elements index last : Routine σ _).exec nested span ctx =
      each span (below nested sub ctx) key elements index last := by
  induction elements generalizing index last with
  | nil => rfl
  | cons element rest ih =>
    unfold Brick.Loop.each each
    simp only [Routine.exec, Exec.bind_eq, Exec.pure_eq]
    congr 1
    funext _
    congr 1
    funext answer
    cases answer with
    | error error => rfl
    | ok value => exact ih _ _

theorem exec_forEach (hs : subPipeline? Brick.Loop.id args "body" = .ok (sub? "body"))
    (hb : body? "body" = (sub? "body").map (below nested)) :
    (Brick.Loop.run args : Routine σ _).exec nested span ctx = forEach span ctx args body? := by
  have hsub := subPipeline_of hs
  unfold Brick.Loop.run Brick.Loop.arguments forEach elements
  rw [hb, hsub]
  cases sub? "body" with
  | none => rfl
  | some sub =>
    cases hk : keyArgument Brick.Loop.id args "elementKey" "element" with
    | error error => rfl
    | ok key =>
      cases args.get? "elements" with
      | none => rfl
      | some value =>
        cases value with
        | array elements => exact exec_each nested span ctx sub (bindingKey key) elements 0 .null
        | _ => rfl

theorem exec_tryExcept (hs : ∀ name ∈ ["try", "except"],
      subPipeline? Brick.Containment.id args name = .ok (sub? name))
    (hb : ∀ name ∈ ["try", "except"], body? name = (sub? name).map (below nested)) :
    (Brick.Containment.run args : Routine σ _).exec nested span ctx =
      tryExcept span ctx args body? := by
  have htry := hb "try" (by simp)
  have hexcept := hb "except" (by simp)
  have hstry := subPipeline_of (hs "try" (by simp))
  have hsexcept := hs "except" (by simp)
  unfold Brick.Containment.run Brick.Containment.arguments tryExcept
  rw [htry, hexcept, hstry, hsexcept]
  cases sub? "try" with
  | none => rfl
  | some attempt =>
    cases hk : keyArgument Brick.Containment.id args "errorKey" "error" with
    | error error => rfl
    | ok key =>
      show (below nested attempt ctx []).bind _ = (below nested attempt ctx []).bind _
      congr 1
      funext answer
      cases answer with
      | ok value => rfl
      | error error =>
        cases sub? "except" with
        | none => rfl
        | some handler =>
          show (Exec.log span _).bind _ = (Exec.log span _).bind _
          congr 1
          funext _
          exact Exec.bind_done _

theorem exec_attempt (sub : SubPipeline) (number : Nat) :
    (Brick.Repetition.attempt sub number : Routine σ _).exec nested span ctx =
      (announce span number).bind fun _ => below nested sub ctx [] := by
  unfold Brick.Repetition.attempt announce
  by_cases h : number = 0
  · rw [if_pos h, if_pos h]
    exact Exec.bind_done _
  · rw [if_neg h, if_neg h]
    show (Exec.log span _).bind _ = (Exec.log span _).bind _
    congr 1
    funext _
    exact Exec.bind_done _

theorem exec_remaining (sub : SubPipeline) (policy : Backoff) (label : String)
    (maxAttempts spare failures : Nat) :
    (Attempts.remaining (Brick.Repetition.attempt sub) policy label maxAttempts spare failures :
        Routine σ _).exec nested span ctx =
      attempts span (below nested sub ctx []) policy label maxAttempts spare failures := by
  induction spare generalizing failures with
  | zero =>
    unfold Attempts.remaining attempts
    rw [Routine.exec_bind, exec_attempt, Exec.bind_assoc]
    show (announce span failures).bind _ = (announce span failures).bind _
    congr 1
    funext _
    show (below nested sub ctx []).bind _ = (below nested sub ctx []).bind _
    congr 1
    funext answer
    cases answer <;> rfl
  | succ spare ih =>
    unfold Attempts.remaining attempts
    rw [Routine.exec_bind, exec_attempt, Exec.bind_assoc]
    show (announce span failures).bind _ = (announce span failures).bind _
    congr 1
    funext _
    show (below nested sub ctx []).bind _ = (below nested sub ctx []).bind _
    congr 1
    funext answer
    cases answer with
    | ok value => rfl
    | error error =>
      show (Exec.log span _).bind _ = (Exec.log span _).bind _
      congr 1
      funext _
      show (Exec.emit _).bind _ = (Exec.emit _).bind _
      congr 1
      funext _
      exact ih (failures + 1)

theorem exec_retry (hs : subPipeline? Brick.Repetition.id args "body" = .ok (sub? "body"))
    (hb : body? "body" = (sub? "body").map (below nested)) :
    (Brick.Repetition.run args : Routine σ _).exec nested span ctx = retry span ctx args body? := by
  have hsub := subPipeline_of hs
  unfold Brick.Repetition.run Brick.Repetition.arguments retry policy
  rw [hb, hsub]
  cases sub? "body" with
  | none => rfl
  | some sub =>
    cases hc : count Brick.Repetition.id args "maxRetries" Brick.Repetition.defaultAttempts with
    | error error => rfl
    | ok maxAttempts =>
      cases hp : Brick.Repetition.policy args with
      | error error => rfl
      | ok policy => exact exec_remaining nested span ctx sub policy _ _ _ _

/-- Running a control-flow brick on its arguments is running it directly, if the sub-pipelines in
the arguments are those given. -/
theorem exec_control (found : Control) (access : Brick.Access)
    (hs : ∀ name ∈ found.branches, subPipeline? found.id args name = .ok (sub? name))
    (hb : ∀ name ∈ found.branches, body? name = (sub? name).map (below nested)) :
    (found.brick.run args access).exec nested span ctx = control span ctx args body? found := by
  cases found with
  | ifElse => exact exec_ifElse nested span ctx hs hb
  | forEach => exact exec_forEach nested span ctx (hs "body" (by decide)) (hb "body" (by decide))
  | tryExcept => exact exec_tryExcept nested span ctx hs hb
  | retry => exact exec_retry nested span ctx (hs "body" (by decide)) (hb "body" (by decide))

end Direct

end BrickPipeline
