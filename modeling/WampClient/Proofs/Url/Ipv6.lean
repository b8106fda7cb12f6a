import WampClient.Proofs.Url.Ipv4
import WampClient.Url.Ipv6

/-! # IPv6 addresses read back

The text of an address is read as that address: the pieces around the gap are read as they were
written, and the gap is filled with the zeros that were left out.
-/

namespace WampClient.Url.Ipv6

open Decimal (hexChar hexRender)
open Text (FreeOf joinWith)

variable {ps : List UInt16} {rest : List Char} {withIpv4 : Bool}

theorem hexRender_free (n : Nat) :
    FreeOf (· = ':') (hexRender n) ∧ (hexRender n).contains '.' = false := by
  have digits : ∀ d, d < 16 → decide (hexChar d = ':') = false ∧ hexChar d ≠ '.' := by decide
  constructor
  · intro c member
    obtain ⟨d, digit, rfl⟩ := Decimal.mem_hexRender member
    exact (digits d digit).1
  · refine Bool.eq_false_iff.mpr fun point => ?_
    obtain ⟨d, digit, same⟩ := Decimal.mem_hexRender (List.contains_iff_mem.mp point)
    exact (digits d digit).2 same.symm

theorem piece?_hexRender (p : UInt16) : piece? (hexRender p.toNat) = some p := by
  have short : (hexRender p.toNat).length ≤ 4 := Decimal.length_hexRender p.toNat_lt
  have some_digit : (hexRender p.toNat).isEmpty = false :=
    List.isEmpty_eq_false_iff.mpr (Decimal.hexRender_ne_nil _)
  rw [piece?, if_neg (by simp [some_digit, Nat.not_lt.mpr short]), numberIn?_hexRender]
  exact congrArg some UInt16.ofNat_toNat

theorem groups?_hexRender (withIpv4 : Bool) (ps : List UInt16) :
    groups? withIpv4 (ps.map fun p => hexRender p.toNat) = some ps := by
  induction ps with
  | nil => rfl
  | cons p ps ih =>
      cases ps with
      | nil =>
          simp only [List.map_cons, List.map_nil, groups?, (hexRender_free p.toNat).2, Bool.and_false,
            Bool.false_eq_true, if_false, piece?_hexRender, Option.map_some]
      | cons q ps =>
          simp only [List.map_cons] at ih ⊢
          simp only [groups?, piece?_hexRender, ih]

theorem renderPieces_cons (p : UInt16) (ps : List UInt16) :
    ∃ c cs, renderPieces (p :: ps) = c :: cs ∧ c ≠ ':' := by
  obtain ⟨c, cs, digits⟩ := List.exists_cons_of_ne_nil (Decimal.hexRender_ne_nil p.toNat)
  have noColon : c ≠ ':' :=
    of_decide_eq_false ((hexRender_free p.toNat).1 c (digits ▸ List.mem_cons_self))
  cases ps with
  | nil => exact ⟨c, cs, digits, noColon⟩
  | cons q ps =>
      refine ⟨c, cs ++ ':' :: renderPieces (q :: ps), ?_, noColon⟩
      change hexRender p.toNat ++ ':' :: renderPieces (q :: ps) = _
      rw [digits, List.cons_append]

theorem pieces?_renderPieces (withIpv4 : Bool) (ps : List UInt16) :
    pieces? withIpv4 (renderPieces ps) = some ps := by
  cases ps with
  | nil => rfl
  | cons p ps =>
      obtain ⟨c, cs, text, _⟩ := renderPieces_cons p ps
      have split : Text.splitBy (· = ':') (renderPieces (p :: ps)) =
          (p :: ps).map fun p => hexRender p.toNat := by
        refine Text.splitBy_joinWith (decide_eq_true rfl) (by simp) ?_
        intro piece member
        obtain ⟨q, _, rfl⟩ := List.mem_map.mp member
        exact (hexRender_free q.toNat).1
      rw [pieces?, split, groups?_hexRender, text]
      rfl

/-! ## The gap -/

theorem cutGap_other {c : Char} (other : c ≠ ':') (rest : List Char) :
    cutGap (c :: rest) = (c :: (cutGap rest).1, (cutGap rest).2) := by
  rw [cutGap]
  rintro _ rfl
  contradiction

theorem cutGap_colon {c : Char} (other : c ≠ ':') (rest : List Char) :
    cutGap (':' :: c :: rest) = (':' :: (cutGap (c :: rest)).1, (cutGap (c :: rest)).2) := by
  rw [cutGap]
  rintro _ _ same
  exact other (List.cons.inj same).1

theorem cutGap_append {piece : List Char} (free : FreeOf (· = ':') piece) (rest : List Char) :
    cutGap (piece ++ rest) = (piece ++ (cutGap rest).1, (cutGap rest).2) := by
  induction piece with
  | nil => rfl
  | cons c piece ih =>
      obtain ⟨other, free⟩ := Text.freeOf_cons.mp free
      rw [List.cons_append, cutGap_other (of_decide_eq_false other), ih free]
      rfl

theorem cutGap_renderPieces {behind : Option (List Char)} (gap : cutGap rest = ([], behind))
    (ps : List UInt16) : cutGap (renderPieces ps ++ rest) = (renderPieces ps, behind) := by
  induction ps with
  | nil => exact gap
  | cons p ps ih =>
      cases ps with
      | nil =>
          change cutGap (hexRender p.toNat ++ rest) = (hexRender p.toNat, behind)
          rw [cutGap_append (hexRender_free _).1, gap, List.append_nil]
      | cons q ps =>
          obtain ⟨c, cs, text, other⟩ := renderPieces_cons q ps
          have written : renderPieces (p :: q :: ps) = hexRender p.toNat ++ ':' :: renderPieces (q :: ps) :=
            rfl
          rw [text, List.cons_append] at ih
          rw [written, List.append_assoc, cutGap_append (hexRender_free _).1, text, List.cons_append,
            List.cons_append, cutGap_colon other, ih]

theorem longestZeros_split (start : Nat) (ps : List UInt16) : ∃ before behind,
    ps = before ++ (List.replicate (longestZeros start ps).2 0 ++ behind) ∧
      ((longestZeros start ps).2 ≠ 0 → (longestZeros start ps).1 = start + before.length) := by
  induction ps generalizing start with
  | nil => exact ⟨[], [], rfl, fun some_zero => absurd rfl some_zero⟩
  | cons p ps ih =>
      rw [longestZeros]
      dsimp only
      split
      · have front : (p :: ps).takeWhile (· = 0) = List.replicate (zeros (p :: ps)) 0 :=
          List.eq_replicate_iff.mpr
            ⟨rfl, fun q member => of_decide_eq_true (List.all_eq_true.mp List.all_takeWhile q member)⟩
        refine ⟨[], (p :: ps).dropWhile (· = 0), ?_, fun _ => rfl⟩
        rw [List.nil_append, ← front, List.takeWhile_append_dropWhile]
      · obtain ⟨before, behind, split, place⟩ := ih (start + 1)
        refine ⟨p :: before, behind, congrArg (p :: ·) split, fun some_zero => ?_⟩
        rw [place some_zero, List.length_cons]
        omega

theorem fill_split {a : Ipv6} {before behind : List UInt16} {k : Nat} (some_zero : 0 < k)
    (split : a.pieces = before ++ (List.replicate k 0 ++ behind)) : fill before behind = some a := by
  have whole := a.length_eq
  rw [split, List.length_append, List.length_append, List.length_replicate] at whole
  have missing : 8 - (before.length + behind.length) = k := by omega
  obtain ⟨pieces, length_eq⟩ := a
  subst split
  rw [fill, dif_pos (by omega)]
  simp only [missing]

/-- An address is written without a gap, or with one in the place of some zeros. -/
theorem render_cases (a : Ipv6) : a.render = renderPieces a.pieces ∨
    ∃ before behind k, 0 < k ∧ a.pieces = before ++ (List.replicate k 0 ++ behind) ∧
      a.render = renderPieces before ++ ':' :: ':' :: renderPieces behind := by
  obtain ⟨before, behind, split, place⟩ := longestZeros_split 0 a.pieces
  rw [render]
  generalize longestZeros 0 a.pieces = run at split place
  obtain ⟨start, k⟩ := run
  dsimp only at split place ⊢
  split
  · exact .inl rfl
  · refine .inr ⟨before, behind, k, by omega, split, ?_⟩
    have before_length : start = before.length := by
      rw [place (by omega), Nat.zero_add]
    rw [split, before_length, List.take_left, ← List.append_assoc]
    have front : before.length + k = (before ++ List.replicate k (0 : UInt16)).length := by
      rw [List.length_append, List.length_replicate]
    rw [front, List.drop_left]

theorem parse?_render (a : Ipv6) : parse? a.render = some a := by
  rcases render_cases a with text | ⟨before, behind, k, some_zero, split, text⟩
  · have gap := cutGap_renderPieces (show cutGap [] = ([], none) from rfl) a.pieces
    rw [List.append_nil] at gap
    simp only [parse?, text, gap, pieces?_renderPieces, dif_pos a.length_eq]
  · have gap := cutGap_renderPieces
      (show cutGap (':' :: ':' :: renderPieces behind) = ([], some (renderPieces behind)) from rfl) before
    simp only [parse?, text, gap, pieces?_renderPieces, fill_split some_zero split]

theorem count_renderPieces (ps : List UInt16) : (renderPieces ps).count ':' = ps.length - 1 := by
  have digits (p : UInt16) : (hexRender p.toNat).count ':' = 0 :=
    List.count_eq_zero.mpr fun member => of_decide_eq_false ((hexRender_free p.toNat).1 ':' member) rfl
  induction ps with
  | nil => rfl
  | cons p ps ih =>
      cases ps with
      | nil => exact digits p
      | cons q ps =>
          have written : renderPieces (p :: q :: ps) = hexRender p.toNat ++ ':' :: renderPieces (q :: ps) :=
            rfl
          rw [written, List.count_append, digits, List.count_cons_self, ih]
          simp only [List.length_cons]
          omega

theorem count_render (a : Ipv6) : a.render.count ':' ≤ 8 := by
  have whole := a.length_eq
  rcases render_cases a with text | ⟨before, behind, k, some_zero, split, text⟩
  · rw [text, count_renderPieces]
    omega
  · rw [split, List.length_append, List.length_append, List.length_replicate] at whole
    rw [text, List.count_append, List.count_cons_self, List.count_cons_self, count_renderPieces,
      count_renderPieces]
    omega

theorem mem_render {a : Ipv6} {c : Char} (member : c ∈ a.render) :
    c = ':' ∨ ∃ d, d < 16 ∧ c = hexChar d := by
  have inPieces {ps : List UInt16} (member : c ∈ renderPieces ps) :
      c = ':' ∨ ∃ d, d < 16 ∧ c = hexChar d := by
    rcases Text.mem_joinWith member with colon | ⟨piece, inPieces, inPiece⟩
    · exact .inl colon
    · obtain ⟨p, _, rfl⟩ := List.mem_map.mp inPieces
      exact .inr (Decimal.mem_hexRender inPiece)
  rcases render_cases a with text | ⟨before, behind, _, _, _, text⟩
  · exact inPieces (text ▸ member)
  · rw [text] at member
    simp only [List.mem_append, List.mem_cons] at member
    rcases member with member | colon | colon | member
    · exact inPieces member
    · exact .inl colon
    · exact .inl colon
    · exact inPieces member

end WampClient.Url.Ipv6
