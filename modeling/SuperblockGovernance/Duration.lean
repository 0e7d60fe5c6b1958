/-
Lengths of time. A duration counts nanoseconds and is shorter than `2 ^ 64` seconds, so a long one
has no double. When a wait of some length is over is up to a timer: couriers and services ask one,
and what they do is the same with every timer.
-/

import SuperblockGovernance.Naturals

namespace SuperblockGovernance

/-- A length of time, shorter than `2 ^ 64` seconds. -/
@[ext]
structure Duration where
  nanoseconds : Nat
  inRange : nanoseconds < 2 ^ 64 * 10 ^ 9
  deriving DecidableEq

namespace Duration

/-- The duration of that many nanoseconds, if there is one. -/
def ofNanoseconds? (nanoseconds : Nat) : Option Duration :=
  if inRange : nanoseconds < 2 ^ 64 * 10 ^ 9 then some ⟨nanoseconds, inRange⟩ else none

/-- A duration of whole seconds. -/
def ofSeconds (seconds : UInt64) : Duration where
  nanoseconds := seconds.toNat * 10 ^ 9
  inRange := Nat.mul_lt_mul_of_pos_right seconds.toNat_lt (by decide)

/-- A duration of whole milliseconds. -/
def ofMilliseconds (milliseconds : UInt64) : Duration where
  nanoseconds := milliseconds.toNat * 10 ^ 6
  inRange := Nat.lt_trans (Nat.mul_lt_mul_of_pos_right milliseconds.toNat_lt (by decide))
    (by decide)

/-- The milliseconds of a duration, rounded up. -/
def milliseconds (duration : Duration) : Nat :=
  (duration.nanoseconds + (10 ^ 6 - 1)) / 10 ^ 6

/-- The duration twice as long, if there is one. -/
def double? (duration : Duration) : Option Duration :=
  ofNanoseconds? (duration.nanoseconds * 2)

instance : LE Duration :=
  ⟨fun shorter longer => shorter.nanoseconds ≤ longer.nanoseconds⟩

instance (shorter longer : Duration) : Decidable (shorter ≤ longer) :=
  inferInstanceAs (Decidable (shorter.nanoseconds ≤ longer.nanoseconds))

/-- The shorter of two durations. -/
def shorter (first second : Duration) : Duration :=
  if first ≤ second then first else second

theorem nanoseconds_shorter (first second : Duration) :
    (first.shorter second).nanoseconds = min first.nanoseconds second.nanoseconds := by
  rw [shorter]
  split
  · rename_i within
    exact (Nat.min_eq_left within).symm
  · rename_i beyond
    exact (Nat.min_eq_right (Nat.le_of_not_le beyond)).symm

theorem double?_eq_some_iff {duration doubled : Duration} :
    duration.double? = some doubled ↔ doubled.nanoseconds = duration.nanoseconds * 2 := by
  rw [double?, ofNanoseconds?]
  constructor
  · intro held
    split at held
    · cases held
      rfl
    · cases held
  · intro same
    rw [dif_pos (same ▸ doubled.inRange)]
    cases doubled
    cases same
    rfl

theorem double?_eq_none_iff {duration : Duration} :
    duration.double? = none ↔ 2 ^ 64 * 10 ^ 9 ≤ duration.nanoseconds * 2 := by
  rw [double?, ofNanoseconds?, ← Nat.not_lt]
  by_cases inRange : duration.nanoseconds * 2 < 2 ^ 64 * 10 ^ 9
  · rw [dif_pos inRange]
    exact iff_of_false nofun fun beyond => beyond inRange
  · rw [dif_neg inRange]
    exact iff_of_true rfl inRange

end Duration

/-- Says when a wait is over, by the moment at which it begins and its length. -/
structure Timer where
  ends : Nat → Duration → Nat

/-- The timer of a node, as its runs show it. Moments count milliseconds, and no wait lasts longer
than thirty years of 365 days. -/
def Timer.node : Timer where
  ends now wait := now + min wait.milliseconds (30 * 365 * 86400000)

end SuperblockGovernance
