import WampClient.Json.Double
import WampClient.Text.Utf8

/-! # JSON values

Whole numbers between -2^63 and 2^64 - 1 are integers; every other number is a double. The fields
of an object are kept in the order of their keys, each key once.
-/

namespace WampClient.Json

/-- A whole number that is written and read without loss. -/
structure Whole where
  toInt : Int
  lower : -0x8000_0000_0000_0000 ≤ toInt
  upper : toInt < 0x1_0000_0000_0000_0000
  deriving DecidableEq, Repr

namespace Whole

def ofNat (n : Nat) (h : n < 0x1_0000_0000_0000_0000) : Whole :=
  ⟨n, by omega, by omega⟩

def ofWord (n : UInt64) : Whole :=
  ofNat n.toNat n.toNat_lt

def toWord? (n : Whole) : Option UInt64 :=
  if 0 ≤ n.toInt then some (UInt64.ofNat n.toInt.toNat) else none

end Whole

inductive Value where
  | null
  | bool (b : Bool)
  | whole (n : Whole)
  | double (x : Double)
  | string (s : String)
  | list (items : List Value)
  | object (fields : List (String × Value))
  deriving Repr

namespace Value

mutual

def decEq : (a b : Value) → Decidable (a = b)
  | .null, .null => isTrue rfl
  | .bool a, .bool b => decidable_of_iff (a = b) (by simp)
  | .whole a, .whole b => decidable_of_iff (a = b) (by simp)
  | .double a, .double b => decidable_of_iff (a = b) (by simp)
  | .string a, .string b => decidable_of_iff (a = b) (by simp)
  | .list a, .list b =>
    match decEqItems a b with
    | isTrue h => isTrue (h ▸ rfl)
    | isFalse h => isFalse fun e => h (Value.list.inj e)
  | .object a, .object b =>
    match decEqFields a b with
    | isTrue h => isTrue (h ▸ rfl)
    | isFalse h => isFalse fun e => h (Value.object.inj e)
  | .null, .bool _ | .null, .whole _ | .null, .double _ | .null, .string _ | .null, .list _
  | .null, .object _ | .bool _, .null | .bool _, .whole _ | .bool _, .double _
  | .bool _, .string _ | .bool _, .list _ | .bool _, .object _ | .whole _, .null
  | .whole _, .bool _ | .whole _, .double _ | .whole _, .string _ | .whole _, .list _
  | .whole _, .object _ | .double _, .null | .double _, .bool _ | .double _, .whole _
  | .double _, .string _ | .double _, .list _ | .double _, .object _ | .string _, .null
  | .string _, .bool _ | .string _, .whole _ | .string _, .double _ | .string _, .list _
  | .string _, .object _ | .list _, .null | .list _, .bool _ | .list _, .whole _
  | .list _, .double _ | .list _, .string _ | .list _, .object _ | .object _, .null
  | .object _, .bool _ | .object _, .whole _ | .object _, .double _ | .object _, .string _
  | .object _, .list _ => isFalse nofun

def decEqItems : (a b : List Value) → Decidable (a = b)
  | [], [] => isTrue rfl
  | [], _ :: _ => isFalse nofun
  | _ :: _, [] => isFalse nofun
  | x :: a, y :: b =>
    match decEq x y, decEqItems a b with
    | isTrue h, isTrue k => isTrue (h ▸ k ▸ rfl)
    | isFalse h, _ => isFalse fun e => h (List.cons.inj e).1
    | _, isFalse k => isFalse fun e => k (List.cons.inj e).2

def decEqFields : (a b : List (String × Value)) → Decidable (a = b)
  | [], [] => isTrue rfl
  | [], _ :: _ => isFalse nofun
  | _ :: _, [] => isFalse nofun
  | (k, x) :: a, (l, y) :: b =>
    match decEq x y, decEqFields a b with
    | isTrue h, isTrue i =>
      if hk : k = l then isTrue (h ▸ i ▸ hk ▸ rfl)
      else isFalse fun e => hk (Prod.mk.inj (List.cons.inj e).1).1
    | isFalse h, _ => isFalse fun e => h (Prod.mk.inj (List.cons.inj e).1).2
    | _, isFalse i => isFalse fun e => i (List.cons.inj e).2

end

instance : DecidableEq Value := decEq

end Value

/-- Puts a field in its place by key; a field of the same key is replaced. -/
def insertField (key : String) (v : Value) : List (String × Value) → List (String × Value)
  | [] => [(key, v)]
  | (k, w) :: rest =>
    if key < k then (key, v) :: (k, w) :: rest
    else if key = k then (key, v) :: rest
    else (k, w) :: insertField key v rest

/-- The object with these fields; of fields with the same key the last one counts. -/
def Value.ofFields (fields : List (String × Value)) : Value :=
  .object (fields.foldl (fun all f => insertField f.1 f.2 all) [])

def Value.field? (v : Value) (key : String) : Option Value :=
  match v with
  | .object fields => fields.lookup key
  | _ => none

end WampClient.Json
