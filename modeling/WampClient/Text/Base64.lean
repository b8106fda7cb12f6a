import WampClient.Text.Utf8

/-! # Base 64

Three bytes are written as four characters of six bits each; a last group of fewer bytes is filled
up with equals signs.
-/

namespace WampClient.Base64

def alphabet : List Char :=
  "ABCDEFGHIJKLMNOPQRSTUVWXYZabcdefghijklmnopqrstuvwxyz0123456789+/".toList

def digit (n : Nat) : Char :=
  alphabet[n % 64]?.getD '='

def render : Bytes → List Char
  | [] => []
  | [a] =>
    let n := a.toNat * 0x1_0000
    [digit (n / 0x4_0000), digit (n / 0x1000), '=', '=']
  | [a, b] =>
    let n := a.toNat * 0x1_0000 + b.toNat * 0x100
    [digit (n / 0x4_0000), digit (n / 0x1000), digit (n / 0x40), '=']
  | a :: b :: c :: rest =>
    let n := a.toNat * 0x1_0000 + b.toNat * 0x100 + c.toNat
    digit (n / 0x4_0000) :: digit (n / 0x1000) :: digit (n / 0x40) :: digit n :: render rest

theorem mem_render (s : Bytes) : ∀ c ∈ render s, c ∈ '=' :: alphabet := by
  have digits (n : Nat) : digit n ∈ '=' :: alphabet := by
    rw [digit]
    cases found : alphabet[n % 64]? with
    | none => exact List.mem_cons_self
    | some d => exact List.mem_cons_of_mem _ (List.mem_of_getElem? found)
  fun_induction render s with
  | case1 => exact List.forall_mem_nil _
  | case2 | case3 => simp only [List.forall_mem_cons, digits, List.mem_cons_self, List.not_mem_nil,
      false_implies, implies_true, and_self]
  | case4 a b c rest n ih =>
    simp only [List.forall_mem_cons]
    exact ⟨digits _, digits _, digits _, digits _, ih⟩

end WampClient.Base64
