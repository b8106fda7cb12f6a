import WampClient.Time.Duration

/-! # Instants

A reading of a clock that counts nanoseconds, and whose seconds fit in a signed number of 64 bits.
A later instant need not exist: the clock has a last second.
-/

namespace WampClient

/-- A reading of the clock, in nanoseconds since its second zero. -/
structure Instant where
  toNanos : Int
  toNanos_ge : -0x8000_0000_0000_0000 * 1_000_000_000 ≤ toNanos
  toNanos_lt : toNanos < 0x8000_0000_0000_0000 * 1_000_000_000
  deriving DecidableEq, Repr

namespace Instant

def zero : Instant := ⟨0, by decide, by decide⟩

instance : LE Instant := ⟨fun s t => s.toNanos ≤ t.toNanos⟩

instance (s t : Instant) : Decidable (s ≤ t) :=
  inferInstanceAs (Decidable (s.toNanos ≤ t.toNanos))

def ofNanos? (n : Int) : Option Instant :=
  if h : -0x8000_0000_0000_0000 * 1_000_000_000 ≤ n ∧ n < 0x8000_0000_0000_0000 * 1_000_000_000 then
    some ⟨n, h.1, h.2⟩
  else none

/-- The instant that lies a span of time later, if the clock can show it. -/
def add? (t : Instant) (d : Duration) : Option Instant :=
  ofNanos? (t.toNanos + d.toNanos)

theorem le_antisymm {s t : Instant} (le : s ≤ t) (ge : t ≤ s) : s = t := by
  have same : s.toNanos = t.toNanos := Int.le_antisymm le ge
  cases s
  cases t
  cases same
  rfl

theorem toNanos_of_ofNanos? {n : Int} {t : Instant} (h : ofNanos? n = some t) : t.toNanos = n := by
  simp only [ofNanos?] at h
  split at h
  · cases h; rfl
  · cases h

theorem toNanos_of_add? {t u : Instant} {d : Duration} (h : t.add? d = some u) :
    u.toNanos = t.toNanos + d.toNanos :=
  toNanos_of_ofNanos? h

end Instant

end WampClient
