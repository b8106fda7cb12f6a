/-! # Bytes

Readers take a sequence of bytes apart from the front. What they leave is a part of what they were
given, and its type says so: a reader that takes at least one byte leaves a `Rest`, so loops over
readers end.
-/

namespace WampClient

abbrev Bytes := List UInt8

namespace Bytes

/-- What is left of `s`, all of it included. -/
abbrev Tail (s : Bytes) := { r : Bytes // r.length ≤ s.length }

/-- What is left of `s` after at least one byte. -/
abbrev Rest (s : Bytes) := { r : Bytes // r.length < s.length }

variable {b : UInt8} {s t : Bytes}

namespace Tail

def all (s : Bytes) : Tail s :=
  ⟨s, Nat.le_refl _⟩

/-- What is left of `s`, seen from the byte before it. -/
def cons (r : Tail s) : Tail (b :: s) :=
  ⟨r.val, Nat.le_succ_of_le r.property⟩

/-- What is left of `s` once the byte before it is taken. -/
def rest (r : Tail s) : Rest (b :: s) :=
  ⟨r.val, Nat.lt_succ_of_le r.property⟩

/-- What is left of `s`, where `s` itself is left of `t`. -/
def within (r : Tail s) (h : s.length ≤ t.length) : Tail t :=
  ⟨r.val, Nat.le_trans r.property h⟩

/-- What is left of `s`, where `s` is left of `t` after at least one byte. -/
def behind (r : Tail s) (h : s.length < t.length) : Rest t :=
  ⟨r.val, Nat.lt_of_le_of_lt r.property h⟩

end Tail

namespace Rest

def cons (r : Rest s) : Rest (b :: s) :=
  ⟨r.val, Nat.lt_succ_of_lt r.property⟩

/-- What is left of `s` when the byte before it is taken too. -/
def uncons (r : Rest (b :: s)) : Tail s :=
  ⟨r.val, Nat.le_of_lt_succ r.property⟩

def toTail (r : Rest s) : Tail s :=
  ⟨r.val, Nat.le_of_lt r.property⟩

def within (r : Rest s) (h : s.length ≤ t.length) : Rest t :=
  ⟨r.val, Nat.lt_of_lt_of_le r.property h⟩

def behind (r : Rest s) (h : s.length < t.length) : Rest t :=
  ⟨r.val, Nat.lt_trans r.property h⟩

end Rest

end Bytes

end WampClient
