/-!
Waiting between attempts. Durations are whole nanoseconds up to a greatest one, and arithmetic
on them stops there.
-/
namespace BrickPipeline

/-- A span of time in nanoseconds. -/
structure Duration where
  nanos : Nat
deriving DecidableEq, Inhabited

namespace Duration

def zero : Duration := ⟨0⟩

/-- The greatest duration: `2 ^ 64` seconds less a nanosecond. -/
def greatest : Duration := ⟨Nat.pow 2 64 * 1000000000 - 1⟩

def ofMillis (millis : Nat) : Duration := ⟨millis * 1000000⟩

def ofSeconds (seconds : Nat) : Duration := ⟨seconds * 1000000000⟩

def toMillis (d : Duration) : Nat := d.nanos / 1000000

/-- A multiple, or the greatest duration if it is longer than that. -/
def saturatingMul (d : Duration) (factor : Nat) : Duration :=
  ⟨min (d.nanos * factor) greatest.nanos⟩

def shorter (a b : Duration) : Duration := ⟨min a.nanos b.nanos⟩

def longer (a b : Duration) : Duration := ⟨max a.nanos b.nanos⟩

def isZero (d : Duration) : Bool := d.nanos = 0

@[simp] theorem toMillis_ofMillis (millis : Nat) : (ofMillis millis).toMillis = millis := by
  simp [toMillis, ofMillis]

end Duration

/-- How long to wait after a failed attempt. -/
inductive Backoff where
  | immediate
  | fixed (interval : Duration)
  /-- The initial wait, doubled after every failure and never above the cap. -/
  | exponential (initial cap : Duration)
deriving DecidableEq, Inhabited

namespace Backoff

/-- The greatest factor, which stands for all greater ones. -/
def greatestFactor : Nat := Nat.pow 2 32 - 1

/-- Two to the number of failures before the last, or the greatest factor. -/
def factor (failures : Nat) : Nat :=
  if failures - 1 < 32 then Nat.pow 2 (failures - 1) else greatestFactor

def delay (policy : Backoff) (failures : Nat) : Duration :=
  match policy with
  | .immediate => .zero
  | .fixed interval => interval
  | .exponential initial cap => (initial.saturatingMul (factor failures)).shorter cap

end Backoff
end BrickPipeline
