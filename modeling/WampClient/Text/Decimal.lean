/-! # Decimal numerals

Natural numbers as decimal digits, most significant first, and back.
-/

namespace WampClient.Decimal

def digitChar (d : Nat) : Char :=
  Char.ofNat (0x30 + d)

def digits (n : Nat) : List Nat :=
  if n < 10 then [n] else digits (n / 10) ++ [n % 10]

def value (ds : List Nat) : Nat :=
  ds.foldl (fun n d => n * 10 + d) 0

def render (n : Nat) : List Char :=
  (digits n).map digitChar

def text (n : Nat) : String :=
  String.ofList (render n)

def renderInt (n : Int) : List Char :=
  if n < 0 then '-' :: render n.natAbs else render n.natAbs

def digit? (b : UInt8) : Option Nat :=
  if 0x30 ≤ b ∧ b ≤ 0x39 then some (b.toNat - 0x30) else none

def hexDigit? (b : UInt8) : Option Nat :=
  if 0x30 ≤ b ∧ b ≤ 0x39 then some (b.toNat - 0x30)
  else if 0x41 ≤ b ∧ b ≤ 0x46 then some (b.toNat - 0x41 + 10)
  else if 0x61 ≤ b ∧ b ≤ 0x66 then some (b.toNat - 0x61 + 10)
  else none

def hexChar (d : Nat) : Char :=
  if d < 10 then Char.ofNat (0x30 + d) else Char.ofNat (0x61 + (d - 10))

def hexRender (n : Nat) : List Char :=
  if n < 16 then [hexChar n] else hexRender (n / 16) ++ [hexChar (n % 16)]

theorem value_append_singleton (ds : List Nat) (d : Nat) :
    value (ds ++ [d]) = value ds * 10 + d := by
  simp [value]

theorem value_digits (n : Nat) : value (digits n) = n := by
  fun_induction digits n with
  | case1 n _ => simp [value]
  | case2 n _ ih => rw [value_append_singleton, ih]; omega

theorem lt_ten_of_mem_digits {n d : Nat} (h : d ∈ digits n) : d < 10 := by
  fun_induction digits n with
  | case1 n hn => simp_all
  | case2 n _ ih =>
    rcases List.mem_append.1 h with h | h
    · exact ih h
    · simp only [List.mem_singleton] at h; omega

end WampClient.Decimal
