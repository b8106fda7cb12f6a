/-! # Punycode

A label with characters beyond ASCII is written in ASCII: first its ASCII characters as they are,
then the others in ascending order, each as its distance from the one before. A distance is a
number of mixed radix; how many digits it takes adapts to the distances so far.
-/

namespace WampClient.Idna

/-- The character of a digit below 36: letters first, then decimal digits. -/
def punyChar (d : Nat) : Char :=
  if d < 26 then Char.ofNat (0x61 + d) else Char.ofNat (0x30 + (d - 26))

def punyDigit? (c : Char) : Option Nat :=
  let n := c.toNat
  if 0x61 ≤ n ∧ n ≤ 0x7A then some (n - 0x61)
  else if 0x41 ≤ n ∧ n ≤ 0x5A then some (n - 0x41)
  else if 0x30 ≤ n ∧ n ≤ 0x39 then some (n - 0x30 + 26)
  else none

/-- The weight at which digit `k` of a distance (counted in steps of 36) still ends it. -/
def threshold (k bias : Nat) : Nat :=
  min (max (k - bias) 1) 26

theorem one_le_threshold (k bias : Nat) : 1 ≤ threshold k bias := by
  simp only [threshold]; omega

theorem threshold_le (k bias : Nat) : threshold k bias ≤ 26 := by
  simp only [threshold]; omega

/-- Counts in steps of 36 how often `delta` can be divided by 35 before it is at most 455. -/
def shrinkDelta (delta steps : Nat) : Nat × Nat :=
  if 455 < delta then shrinkDelta (delta / 35) (steps + 36) else (delta, steps)
termination_by delta
decreasing_by omega

/-- The bias after a distance, of which `count` characters have one so far. -/
def adaptBias (delta count : Nat) (isFirst : Bool) : Nat :=
  let delta := if isFirst then delta / 700 else delta / 2
  let (delta, steps) := shrinkDelta (delta + delta / count) 0
  steps + 36 * delta / (delta + 38)

/-! ## Writing -/

def distanceDigits (bias k delta : Nat) : List Char :=
  let t := threshold k bias
  if delta < t then [punyChar delta]
  else
    punyChar (t + (delta - t) % (36 - t)) ::
      distanceDigits bias (k + 36) ((delta - t) / (36 - t))
termination_by delta
decreasing_by
  have := one_le_threshold k bias
  have := Nat.div_le_self (delta - threshold k bias) (36 - threshold k bias)
  omega

/-- How far the writing has come: the text, the distance since the last character written, the
    bias, and the number of characters written. -/
structure Writing where
  text : List Char
  delta : Nat
  bias : Nat
  count : Nat

/-- Passes one character of the label while `m` is the code point to be written. -/
def Writing.pass (basic m : Nat) (w : Writing) (c : Char) : Writing :=
  if c.toNat < m then { w with delta := w.delta + 1 }
  else if c.toNat = m then
    { text := w.text ++ distanceDigits w.bias 36 w.delta
      delta := 0
      bias := adaptBias w.delta (w.count + 1) (w.count = basic)
      count := w.count + 1 }
  else w

/-- Writes the characters of the code points `ms`, which ascend from `n`. -/
def writeFrom (label : List Char) (basic : Nat) : (ms : List Nat) → (n : Nat) → Writing → Writing
  | [], _, w => w
  | m :: ms, n, w =>
    let w := { w with delta := w.delta + (m - n) * (w.count + 1) }
    let w := label.foldl (Writing.pass basic m) w
    writeFrom label basic ms (m + 1) { w with delta := w.delta + 1 }

def insertAscending (m : Nat) : List Nat → List Nat
  | [] => [m]
  | k :: ks =>
    if m < k then m :: k :: ks else if m = k then k :: ks else k :: insertAscending m ks

def codePoints (label : List Char) : List Nat :=
  label.foldr (fun c ms => if c.toNat < 0x80 then ms else insertAscending c.toNat ms) []

def punycode (label : List Char) : List Char :=
  let basic := label.filter (·.toNat < 0x80)
  let lead := if basic.isEmpty then [] else basic ++ ['-']
  (writeFrom label basic.length (codePoints label) 0x80 ⟨lead, 0, 72, basic.length⟩).text

/-! ## Reading -/

/-- Reads a distance: adds its digits, of the weight `w` at first, to `i`. -/
def readDistance (bias : Nat) : (k w i : Nat) → List Char → Option (Nat × List Char)
  | _, _, _, [] => none
  | k, w, i, c :: rest =>
    match punyDigit? c with
    | none => none
    | some d =>
      let i := i + d * w
      if d < threshold k bias then some (i, rest)
      else readDistance bias (k + 36) (w * (36 - threshold k bias)) i rest

theorem readDistance_length {bias k w i : Nat} {s rest : List Char} {j : Nat}
    (h : readDistance bias k w i s = some (j, rest)) : rest.length < s.length := by
  fun_induction readDistance bias k w i s with
  | case1 => simp at h
  | case2 => simp at h
  | case3 => simp_all
  | case4 k w i c r d _ _ _ ih => exact Nat.lt_succ_of_lt (ih h)

def readFrom (label : List Char) (n i bias : Nat) (s : List Char) : Option (List Char) :=
  if s.isEmpty then some label
  else
    match _h : readDistance bias 36 1 i s with
    | none => none
    | some (j, rest) =>
      let size := label.length + 1
      let m := n + j / size
      if m.isValidChar then
        let at_ := j % size
        readFrom (label.take at_ ++ Char.ofNat m :: label.drop at_) m (at_ + 1)
          (adaptBias (j - i) size (i = 0)) rest
      else none
termination_by s.length
decreasing_by exact readDistance_length _h

/-- The label that an ASCII text stands for. Its plain characters stand before the last hyphen. -/
def ofPunycode? (s : List Char) : Option (List Char) :=
  match s.reverse.span (· ≠ '-') with
  | (digits, '-' :: basic@(_ :: _)) => readFrom basic.reverse 0x80 0 72 digits.reverse
  | (_, _) => readFrom [] 0x80 0 72 s

end WampClient.Idna
