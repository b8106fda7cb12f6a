import WampClient.Proofs.Idna.Plain
import WampClient.Proofs.Url.Ipv6
import WampClient.Proofs.Url.Percent
import WampClient.Url.Host

/-! # Hosts read back

The text of a host is read as that host: an address always, and a domain name if it is its own ASCII
form.
-/

namespace WampClient

open Text (FreeOf)

namespace Idna

theorem IsNameChar.ne {c x : Char} (sound : IsNameChar c) (bad : isDomainChar x = false) : c ≠ x := by
  rintro rfl
  rw [sound.sound] at bad
  cases bad

theorem IsNameChar.visible {c : Char} (sound : IsNameChar c) : Url.IsVisible c := by
  have valid := sound.sound
  have ascii := sound.ascii
  simp only [isDomainChar, isAscii, decide_eq_true sound.ascii, Bool.not_true, Bool.false_or,
    Bool.and_eq_true, decide_eq_true_eq] at valid
  rw [Url.IsVisible]
  omega

theorem isNameChar_hexChar {d : Nat} (digit : d < 16) : IsNameChar (Decimal.hexChar d) := by
  have all : ∀ d, d < 16 → (Decimal.hexChar d).toNat < 0x80 ∧ isDomainChar (Decimal.hexChar d) = true := by
    decide
  exact ⟨(all d digit).1, (all d digit).2⟩

theorem isNameChar_ipv4 {a : Url.Ipv4} : ∀ c ∈ a.render, IsNameChar c := by
  intro c member
  rcases a.mem_render member with rfl | ⟨d, digit, rfl⟩
  · exact ⟨by decide, by decide⟩
  · have same : ∀ d, d < 10 → Decimal.digitChar d = Decimal.hexChar d := by decide
    rw [same d digit]
    exact isNameChar_hexChar (Nat.lt_trans digit (by decide))

theorem toAscii?_ipv4 (a : Url.Ipv4) : toAscii? a.render = some a.render := by
  refine toAscii?_plain
    { ascii := fun c member => (isNameChar_ipv4 c member).ascii
      lower := ?_
      sound := fun c member => (isNameChar_ipv4 c member).sound
      unmarked := ?_ }
  · intro c member
    have low : ∀ d, d < 10 → ¬ (0x41 ≤ (Decimal.digitChar d).toNat ∧ (Decimal.digitChar d).toNat ≤ 0x5A) := by
      decide
    rcases a.mem_render member with rfl | ⟨d, digit, rfl⟩
    · decide
    · exact low d digit
  · intro label member marked
    rw [a.splitBy_render] at member
    obtain ⟨n, _, rfl⟩ := List.mem_map.mp member
    have first : 'x' ∈ (Decimal.render n).take 4 := marked ▸ List.mem_cons_self
    obtain ⟨d, digit, same⟩ := Decimal.mem_render (List.mem_of_mem_take first)
    have noLetter : ∀ d, d < 10 → 'x' ≠ Decimal.digitChar d := by decide
    exact noLetter d digit same

end Idna

namespace Url.Host

open Idna (IsNameChar)

variable {h : Host} {text : List Char}

/-- A name as a host: it is no address. -/
structure IsName (name : List Char) : Prop where
  some_char : name ≠ []
  noNumber : endsInNumber name = false
  chars : ∀ c ∈ name, IsNameChar c

def IsSound : Host → Prop
  | .domain name => IsName name
  | .ipv4 _ | .ipv6 _ => True

/-- A host that can be read back from its text. For a name this needs that its ASCII form is itself,
    which is shown of plain names and assumed of others. -/
def IsStable : Host → Prop
  | .domain name => IsName name ∧ Idna.toAscii? name = some name
  | .ipv4 _ | .ipv6 _ => True

theorem IsStable.sound (stable : h.IsStable) : h.IsSound := by
  cases h with
  | domain name => exact stable.1
  | ipv4 | ipv6 => trivial

theorem IsSound.stable (sound : h.IsSound)
    (fixed : ∀ name, h = .domain name → Idna.toAscii? name = some name) : h.IsStable := by
  cases h with
  | domain name => exact ⟨sound, fixed name rfl⟩
  | ipv4 | ipv6 => trivial

theorem parse_name {name : List Char} (chars : ∀ c ∈ name, IsNameChar c)
    (fixed : Idna.toAscii? name = some name) : parse name = ofAscii name := by
  have decoded := decode_plain (fun c member => (chars c member).ascii)
    (fun percent => (chars _ percent).ne (x := '%') (by decide) rfl)
  unfold parse
  split
  · exact absurd rfl ((chars '[' List.mem_cons_self).ne (by decide))
  · simp only [decoded, fixed]

theorem parse_render (stable : h.IsStable) : parse h.render = .ok h := by
  cases h with
  | domain name =>
      obtain ⟨⟨some_char, noNumber, chars⟩, fixed⟩ := stable
      have full : name.isEmpty = false := List.isEmpty_eq_false_iff.mpr some_char
      rw [render, parse_name chars fixed, ofAscii, full, noNumber]
      rfl
  | ipv4 a =>
      have full : a.render.isEmpty = false := List.isEmpty_eq_false_iff.mpr a.render_ne_nil
      rw [render, parse_name Idna.isNameChar_ipv4 (Idna.toAscii?_ipv4 a), ofAscii, full,
        a.endsInNumber_render, a.parse?_render]
      rfl
  | ipv6 a =>
      change parseBracketed (a.render ++ [']']) = _
      simp only [parseBracketed, List.reverse_append, List.reverse_singleton, List.singleton_append,
        List.reverse_reverse, Ipv6.parse?_render]

/-- A domain name that was read is the ASCII form of what was written. -/
theorem parse_domain {name : List Char} (read : parse text = .ok (.domain name)) :
    (∃ domain, Idna.toAscii? domain = some name) ∧ IsName name := by
  unfold parse at read
  split at read
  · unfold parseBracketed at read
    split at read
    · split at read <;> cases read
    · cases read
  · split at read
    · cases read
    · split at read
      · cases read
      · rename_i ascii mapped
        unfold ofAscii at read
        split at read
        · cases read
        · rename_i full
          split at read
          · split at read <;> cases read
          · rename_i noNumber
            cases read
            exact ⟨⟨_, mapped⟩, by simpa using full, by simpa using noNumber,
              Idna.toAscii?_sound mapped⟩

theorem isSound_of_parse (read : parse text = .ok h) : h.IsSound := by
  cases h with
  | domain name => exact (parse_domain read).2
  | ipv4 | ipv6 => trivial

theorem render_free {other : Char → Bool} (sound : h.IsSound)
    (names : ∀ c, IsNameChar c → other c = false)
    (marks : FreeOf other [':', '[', ']']) : FreeOf other h.render := by
  cases h with
  | domain name => exact fun c member => names c (sound.chars c member)
  | ipv4 a => exact fun c member => names c (Idna.isNameChar_ipv4 c member)
  | ipv6 a =>
      intro c member
      simp only [render, List.mem_cons, List.mem_append, List.not_mem_nil, or_false] at member
      rcases member with rfl | member | rfl
      · exact marks _ (by decide)
      · rcases Ipv6.mem_render member with rfl | ⟨d, digit, rfl⟩
        · exact marks _ (by decide)
        · exact names _ (Idna.isNameChar_hexChar digit)
      · exact marks _ (by decide)

theorem IsSound.render_ne_nil (sound : h.IsSound) : h.render ≠ [] := by
  cases h with
  | domain name => exact sound.some_char
  | ipv4 a => exact a.render_ne_nil
  | ipv6 a => exact List.cons_ne_nil _ _

end Url.Host

end WampClient
