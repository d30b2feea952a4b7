import BrickPipeline.Brick.Repetition
import BrickPipeline.Proofs.Attempts
import BrickPipeline.Proofs.Codec
import Mathlib.Tactic.Ring

/-!
How long is waited between attempts. An exponential policy doubles its wait as long as the factor is
below its greatest, which for the repeating brick is always until the wait is capped.
-/
namespace BrickPipeline

namespace Backoff

/-- The factor is the exact one, or the greatest if that is less. -/
theorem factor_eq (failures : Nat) : factor failures = min (2 ^ (failures - 1)) (2 ^ 32 - 1) := by
  unfold factor
  split
  · rename_i h
    have hle : 2 ^ (failures - 1) ≤ 2 ^ 31 := Nat.pow_le_pow_right Nat.two_pos (by omega)
    rw [Nat.pow_eq, min_eq_left (by omega)]
  · rename_i h
    have hle : 2 ^ 32 ≤ 2 ^ (failures - 1) := Nat.pow_le_pow_right Nat.two_pos (by omega)
    rw [min_eq_right (by omega)]
    rfl

/-- Durations stop at a greatest one, but not before the cap. -/
theorem nanos_exponential (initial : Duration) {cap : Duration}
    (representable : cap.nanos ≤ Duration.greatest.nanos) (failures : Nat) :
    ((exponential initial cap).delay failures).nanos =
      min (initial.nanos * min (2 ^ (failures - 1)) (2 ^ 32 - 1)) cap.nanos := by
  rw [← factor_eq]
  exact (min_assoc _ _ _).trans (congrArg (min _) (min_eq_right representable))

/-- A limit on a factor is felt in a capped product unless the product is zero or capped by then. -/
theorem min_mul_min_eq_iff (initial cap factor limit : Nat) :
    min (initial * min factor limit) cap = min (initial * factor) cap ↔
      factor ≤ limit ∨ initial = 0 ∨ cap ≤ initial * limit := by
  rcases Nat.lt_or_ge limit factor with h | h
  · rcases Nat.eq_zero_or_pos initial with rfl | hpos
    · simp
    · have hlt : initial * limit < initial * factor := Nat.mul_lt_mul_of_pos_left h hpos
      rw [min_eq_right (Nat.le_of_lt h)]
      omega
  · simp [h]

/-- The exact factors that are not above the greatest. -/
theorem two_pow_le_iff (failures : Nat) : 2 ^ (failures - 1) ≤ 2 ^ 32 - 1 ↔ failures ≤ 32 := by
  rcases Nat.lt_or_ge 32 failures with h | h
  · have hle : 2 ^ 32 ≤ 2 ^ (failures - 1) := Nat.pow_le_pow_right Nat.two_pos (by omega)
    omega
  · have hle : 2 ^ (failures - 1) ≤ 2 ^ 31 := Nat.pow_le_pow_right Nat.two_pos (by omega)
    omega

/-- The wait is the exact one up to the failure at which the factor is greatest, and from there on
if nothing is multiplied or if the product with the greatest factor is capped. -/
theorem exact_iff (initial : Duration) {cap : Duration}
    (representable : cap.nanos ≤ Duration.greatest.nanos) (failures : Nat) :
    ((exponential initial cap).delay failures).nanos =
        min (initial.nanos * 2 ^ (failures - 1)) cap.nanos ↔
      failures ≤ 32 ∨ initial.nanos = 0 ∨ cap.nanos ≤ initial.nanos * (2 ^ 32 - 1) := by
  rw [nanos_exponential initial representable, min_mul_min_eq_iff, two_pow_le_iff]

/-- The wait of an exponential policy, in nanoseconds: the initial one by a factor that doubles with
every failure but the first, up to the greatest factor, and never above the cap. So it is the
initial one doubled after every failure, and capped, for the first 32 failures, and after them
exactly if the initial wait is none or its product with the greatest factor has come to the cap. -/
theorem delay_exponential (initial cap : Duration)
    (representable : cap.nanos ≤ Duration.greatest.nanos) (failures : Nat) :
    ((exponential initial cap).delay failures).nanos =
        min (initial.nanos * min (2 ^ (failures - 1)) (2 ^ 32 - 1)) cap.nanos ∧
      (((exponential initial cap).delay failures).nanos =
          min (initial.nanos * 2 ^ (failures - 1)) cap.nanos ↔
        failures ≤ 32 ∨ initial.nanos = 0 ∨ cap.nanos ≤ initial.nanos * (2 ^ 32 - 1)) :=
  ⟨nanos_exponential initial representable failures, exact_iff initial representable failures⟩

theorem delay_exponential_sample :
    let initial := Duration.ofMillis 100
    let cap := Duration.ofMillis 500
    cap.nanos ≤ Duration.greatest.nanos ∧
      ((exponential initial cap).delay 64).nanos =
        min (initial.nanos * 2 ^ (64 - 1)) cap.nanos := by
  intro initial cap
  have representable : cap.nanos ≤ Duration.greatest.nanos := by decide
  obtain ⟨-, hexact⟩ := delay_exponential initial cap representable 64
  exact ⟨representable, hexact.2 (Or.inr (Or.inr (by decide)))⟩

/-- A wait that is not capped is doubled up to the greatest factor only. -/
theorem exists_delay_not_doubled :
    ∃ (initial cap : Duration) (failures : Nat), initial.nanos ≤ Duration.greatest.nanos ∧
      cap.nanos ≤ Duration.greatest.nanos ∧ 1 ≤ failures ∧ failures < 2 ^ 64 ∧
      ((exponential initial cap).delay failures).nanos ≠
        min (initial.nanos * 2 ^ (failures - 1)) cap.nanos :=
  ⟨.ofMillis 1, .ofMillis (2 ^ 32), 33, by decide, by decide, by decide, by decide, by decide⟩

end Backoff

namespace Brick.Repetition

open Arguments

/-- The wait after a failure in milliseconds and in exact arithmetic: the interval, doubled with
every failure but the first if the waits are to grow, and then never above half a minute or the
interval if that is longer. -/
def waitMillis (interval : Nat) (backoff : Option String) (failures : Nat) : Nat :=
  if backoff = some "exponential" then min (interval * 2 ^ (failures - 1)) (max 30000 interval)
  else interval

theorem waitMillis_mono (interval : Nat) (backoff : Option String) {fewer more : Nat}
    (h : fewer ≤ more) :
    waitMillis interval backoff fewer ≤ waitMillis interval backoff more := by
  unfold waitMillis
  split
  · have hpow : 2 ^ (fewer - 1) ≤ 2 ^ (more - 1) := Nat.pow_le_pow_right Nat.two_pos (by omega)
    have hmul : interval * 2 ^ (fewer - 1) ≤ interval * 2 ^ (more - 1) :=
      Nat.mul_le_mul_left interval hpow
    omega
  · exact Nat.le_refl interval

theorem waitMillis_le (interval : Nat) (backoff : Option String) (failures : Nat) :
    waitMillis interval backoff failures ≤ max 30000 interval := by
  unfold waitMillis
  split <;> omega

theorem waitMillis_eq_zero_iff (interval : Nat) (backoff : Option String) (failures : Nat) :
    waitMillis interval backoff failures = 0 ↔ interval = 0 := by
  unfold waitMillis
  split
  · have hpos : 0 < 2 ^ (failures - 1) := Nat.two_pow_pos _
    have hzero : interval * 2 ^ (failures - 1) = 0 ↔ interval = 0 := by
      rw [Nat.mul_eq_zero]
      omega
    omega
  · rfl

/-- An exponential policy whose cap is half a minute, or the interval if that is longer, waits
exactly as long as it is to. -/
theorem delay_exponential_ofMillis {interval : Nat} (bounded : interval < 2 ^ 64)
    (hpos : 0 < interval) (failures : Nat) :
    (Backoff.exponential (.ofMillis interval) (maxBackoff.longer (.ofMillis interval))).delay
        failures =
      .ofMillis (min (interval * 2 ^ (failures - 1)) (max 30000 interval)) := by
  have hcap : (maxBackoff.longer (.ofMillis interval)).nanos = max 30000 interval * 1000000 := by
    simp only [Duration.longer, maxBackoff, Duration.ofSeconds, Duration.ofMillis]
    omega
  have hgreatest : Duration.greatest.nanos = 2 ^ 64 * 1000000000 - 1 := rfl
  have hreached : (maxBackoff.longer (.ofMillis interval)).nanos ≤
      (Duration.ofMillis interval).nanos * (2 ^ 32 - 1) := by
    rw [hcap]
    show _ ≤ interval * 1000000 * (2 ^ 32 - 1)
    omega
  have hexact := (Backoff.exact_iff (.ofMillis interval) (by omega) failures).2
    (Or.inr (Or.inr hreached))
  refine congrArg Duration.mk (hexact.trans ?_)
  rw [hcap]
  show min (interval * 1000000 * 2 ^ (failures - 1)) _ = _
  rw [Nat.mul_right_comm]
  exact Nat.mul_min_mul_right ..

/-- No interval is no wait, whatever the policy would make of it. -/
theorem delay_unless_zero {interval : Nat} {asked : Backoff} {failures wait : Nat}
    (zero : interval = 0 → wait = 0)
    (positive : 0 < interval → asked.delay failures = .ofMillis wait) :
    (if (Duration.ofMillis interval).isZero then Backoff.immediate else asked).delay failures =
      .ofMillis wait := by
  by_cases hi : interval = 0
  · rw [zero hi, hi]
    rfl
  · have hzero : ¬ (Duration.ofMillis interval).isZero = true := by
      simpa [Duration.isZero, Duration.ofMillis] using hi
    rw [if_neg hzero]
    exact positive (Nat.pos_of_ne_zero hi)

/-- The policy that arguments ask for waits as long as it is to. -/
theorem delay_of_policy {args : Json} {asked : Backoff} (h : policy args = .ok asked) :
    ∃ interval, count id args "intervalMillis" 0 = .ok interval ∧
      (interval < 2 ^ 64 → ∀ failures, asked.delay failures =
        .ofMillis (waitMillis interval (string? args "backoff") failures)) := by
  obtain ⟨interval, hcount, hrest⟩ := Except.ok_of_bind h
  refine ⟨interval, hcount, fun bounded failures => ?_⟩
  have hnone : interval = 0 → waitMillis interval (string? args "backoff") failures = 0 :=
    (waitMillis_eq_zero_iff interval _ failures).2
  have hgrowing : (string? args "backoff").getD "fixed" = "exponential" ↔
      string? args "backoff" = some "exponential" := by
    simp [Option.getD_eq_iff]
  split at hrest
  · rename_i hkind
    cases hrest
    have hfixed : string? args "backoff" ≠ some "exponential" := by
      rw [Ne, ← hgrowing, hkind]
      decide
    refine delay_unless_zero hnone fun _ => ?_
    rw [waitMillis, if_neg hfixed]
    rfl
  · rename_i hkind
    cases hrest
    refine delay_unless_zero hnone fun positive => ?_
    rw [waitMillis, if_pos (hgrowing.1 hkind)]
    exact delay_exponential_ofMillis bounded positive failures
  · cases hrest

/-- The waits of the repeating brick. Once its arguments are accepted, they say an interval of whole
milliseconds, and the wait after each failure is exactly as long as it is to. A run of the brick
makes attempts until one does not fail or as many as allowed have failed, waits so long after each
of them that is not the last, and apart from that only as its attempts do. The waits never get
shorter, none is longer than half a minute or the interval if that is longer, and either the
interval is zero and so are they all, or none of them is. -/
theorem run_waits {args : Json} {body : SubPipeline} {maxAttempts : Nat} {asked : Backoff}
    (accepted : arguments args = .ok (body, maxAttempts, asked)) :
    ∃ interval, count id args "intervalMillis" 0 = .ok interval ∧ (interval < 2 ^ 64 →
      let wait := waitMillis interval (string? args "backoff")
      (∀ failures, asked.delay failures = .ofMillis (wait failures)) ∧
        (∀ {σ : Type} (nested : Runner σ) (span : Option Log.Span) (ctx : Context) (state : σ),
          let made := Attempts.nth (attempt body) nested span ctx state
          ∃ last < max 1 maxAttempts, (∀ n < last, (made n).failure?.isSome = true) ∧
            ((made last).failure? = none ∨ last + 1 = max 1 maxAttempts) ∧
            Event.waits ((run args).exec nested span ctx state).events =
              (List.range last).flatMap
                  (fun n => Event.waits (made n).events ++ [.ofMillis (wait (n + 1))]) ++
                Event.waits (made last).events) ∧
        (∀ fewer more, fewer ≤ more → wait fewer ≤ wait more) ∧
        (∀ failures, wait failures ≤ max 30000 interval) ∧
        ∀ failures, wait failures = 0 ↔ interval = 0) := by
  obtain ⟨_, -, hrest⟩ := Except.ok_of_bind accepted
  obtain ⟨_, -, hrest⟩ := Except.ok_of_bind hrest
  obtain ⟨_, hpolicy, hlast⟩ := Except.ok_of_bind hrest
  cases hlast
  obtain ⟨interval, hcount, hdelay⟩ := delay_of_policy hpolicy
  refine ⟨interval, hcount, fun bounded => ?_⟩
  intro wait
  refine ⟨hdelay bounded, ?_, fun _ _ => waitMillis_mono interval _,
    waitMillis_le interval _, waitMillis_eq_zero_iff interval _⟩
  intro σ nested span ctx state made
  have hrun : (run args : Routine σ _) =
      Attempts.untilSuccess (attempt body) maxAttempts asked id.text := by
    rw [run, accepted]
  obtain ⟨last, hlast, hfailed, hsettled, hwaits⟩ :=
    Attempts.waits_untilSuccess (attempt body) nested span ctx asked id.text maxAttempts state
  refine ⟨last, hlast, hfailed, hsettled, ?_⟩
  simp only [hrun, hwaits, hdelay bounded]
  rfl

/-- The attempts at a step that never succeeds. -/
def failedAttempts : Nat → Ran Unit (Except Error Json) :=
  Attempts.nth (attempt ⟨[Sample.throwing "down"], none⟩)
    (Sample.host.runPipeline Sample.info 1) none .empty ()

theorem failedAttempts_spec :
    ∀ n < 3, (failedAttempts n).failure? ≠ none ∧ Event.waits (failedAttempts n).events = [] := by
  decide +kernel

theorem run_waits_sample :
    let args : Json := .object [("backoff", .string "exponential"),
      ("body", (Expr.ofSteps [Sample.throwing "down"]).toJson), ("intervalMillis", .nat 100)]
    let asked := Backoff.exponential (.ofMillis 100) (.ofMillis 30000)
    let ran := (run args).exec (Sample.host.runPipeline Sample.info 1) none .empty ()
    arguments args = .ok (⟨[Sample.throwing "down"], none⟩, 3, asked) ∧
      Event.waits ran.events = [.ofMillis 100, .ofMillis 200] ∧ asked.delay 5 = .ofMillis 1600 ∧
      asked.delay 50 = .ofMillis 30000 ∧ ∀ failures, asked.delay failures ≠ .zero := by
  intro args asked ran
  have accepted : arguments args = .ok (⟨[Sample.throwing "down"], none⟩, 3, asked) := rfl
  obtain ⟨interval, hcount, hwaits⟩ := run_waits accepted
  obtain rfl : 100 = interval := Except.ok.inj hcount
  obtain ⟨hdelay, hran, -, -, hzero⟩ := hwaits (by decide)
  refine ⟨accepted, ?_, (hdelay 5).trans rfl, (hdelay 50).trans (by decide),
    fun failures hnone => ?_⟩
  · obtain ⟨last, hlast, -, hsettled, hevents⟩ :=
      hran (Sample.host.runPipeline Sample.info 1) none .empty ()
    have hspent := hsettled.resolve_left (failedAttempts_spec last hlast).1
    obtain rfl : 2 = last := (Nat.succ.inj hspent).symm
    refine hevents.trans ?_
    show (Event.waits (failedAttempts 0).events ++ [.ofMillis 100]) ++
      ((Event.waits (failedAttempts 1).events ++ [.ofMillis 200]) ++ []) ++
        Event.waits (failedAttempts 2).events = _
    rw [(failedAttempts_spec 0 (by decide)).2, (failedAttempts_spec 1 (by decide)).2,
      (failedAttempts_spec 2 (by decide)).2]
    rfl
  · have hmillis := congrArg Duration.toMillis ((hdelay failures).symm.trans hnone)
    rw [Duration.toMillis_ofMillis] at hmillis
    exact absurd ((hzero failures).1 hmillis) (by decide)

end Brick.Repetition
end BrickPipeline
