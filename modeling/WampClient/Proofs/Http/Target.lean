import WampClient.Http.Target
import WampClient.Proofs.Url.Address

/-! # Web addresses as request targets

Request targets are read by rules of their own, and these are stricter than the rules for web
addresses. Of the text of an address, though, little is left to refuse: it may be too long, or the name
of its host may hold one of four characters. Whatever else it holds, it is read, without its fragment.
-/

namespace WampClient.Http.Target

open Text (FreeOf BeginsWith)
open Url (Address Host inUserinfoSet inPathSet inQuerySet)
open Idna (IsNameChar)

/-! ## Characters -/

/-- The character may stand in the name of a host, but not in a request target. -/
def isUnusable (c : Char) : Bool :=
  ['"', '\x60', '\x7b', '\x7d'].contains c

def isMark (c : Char) : Bool :=
  [':', '[', ']', '@', '%'].contains c

variable {c : Char} {text rest : List Char} {s : Seen} {a : Address}

theorem of_ascii {P : Char → Prop} (codes : ∀ n < 0x80, P (Char.ofNat n)) (ascii : c.toNat < 0x80) : P c :=
  Char.ofNat_toNat c ▸ codes c.toNat ascii

theorem ascii_of_visible (visible : Url.IsVisible c) : c.toNat < 0x80 :=
  Nat.lt_of_le_of_lt visible.2 (by decide)

theorem isAuthorityChar_of_name (sound : IsNameChar c) :
    isMark c = false ∧ isAuthorityChar c = !isUnusable c :=
  of_ascii
    (P := fun c => Idna.isDomainChar c = true → isMark c = false ∧ isAuthorityChar c = !isUnusable c)
    (by decide) sound.ascii sound.sound

theorem isPathChar_of_path (plain : inPathSet c = false) : c ≠ '?' ∧ c ≠ '#' ∧ isPathChar c = true :=
  of_ascii (P := fun c => inPathSet c = false → c ≠ '?' ∧ c ≠ '#' ∧ isPathChar c = true) (by decide)
    (ascii_of_visible (Url.isVisible_of_path plain)) plain

theorem isQueryChar_of_query (plain : inQuerySet c = false) : c ≠ '#' ∧ isQueryChar c = true :=
  of_ascii (P := fun c => inQuerySet c = false → c ≠ '#' ∧ isQueryChar c = true) (by decide)
    (ascii_of_visible (Url.isVisible_of_query plain)) plain

theorem isAuthorityChar_of_userinfo (plain : inUserinfoSet c = false) :
    c = '%' ∨ isMark c = false ∧ isAuthorityChar c = true :=
  of_ascii
    (P := fun c => inUserinfoSet c = false → c = '%' ∨ isMark c = false ∧ isAuthorityChar c = true)
    (by decide) (ascii_of_visible (Url.isVisible_of_path (Url.path_of_userinfo plain))) plain

/-! ## Authorities -/

/-- A mark, or a character that may not stand in an authority, changes more than this. -/
theorem next_plain (noMark : isMark c = false) (word : isAuthorityChar c = true) :
    s.next c = .ok { s with atSign := false } := by
  have other {x : Char} (mark : isMark x = true) : c ≠ x := by
    rintro rfl
    rw [noMark] at mark
    cases mark
  rw [Seen.next, if_neg (other (by decide)), if_neg (other (by decide)), if_neg (other (by decide)),
    if_neg (other (by decide)), if_neg (other (by decide)), if_pos word]

theorem next_unusable (unusable : isUnusable c = true) : s.next c = .error .invalidUriCharacter := by
  have few : c ∈ ['"', '\x60', '\x7b', '\x7d'] := List.contains_iff_mem.mp unusable
  simp only [List.mem_cons, List.not_mem_nil, or_false] at few
  rcases few with rfl | rfl | rfl | rfl <;> rfl

/-- What was seen of an authority of which a text was seen too that holds no mark but percent signs. -/
theorem foldlM_userinfoPart (plain : FreeOf inUserinfoSet text) : ∃ percent,
    text.foldlM Seen.next s = .ok { s with percent, atSign := s.atSign && text.isEmpty } := by
  induction text generalizing s with
  | nil => exact ⟨s.percent, by rw [List.isEmpty_nil, Bool.and_true]; rfl⟩
  | cons c text ih =>
      obtain ⟨first, more⟩ := Text.freeOf_cons.mp plain
      have passed : ∃ percent, s.next c = .ok { s with percent, atSign := false } := by
        rcases isAuthorityChar_of_userinfo first with rfl | ⟨noMark, word⟩
        · exact ⟨true, rfl⟩
        · exact ⟨s.percent, next_plain noMark word⟩
      obtain ⟨percent, passed⟩ := passed
      obtain ⟨last, rested⟩ := ih (s := { s with percent, atSign := false }) more
      refine ⟨last, ?_⟩
      rw [List.foldlM_cons, passed, List.isEmpty_cons, Bool.and_false]
      exact rested

/-- Nothing that was seen before the sign that ends a user name and password counts behind it. -/
theorem foldlM_userinfo (escaped : a.IsEscaped) : ∃ atSign,
    a.renderUserinfo.foldlM Seen.next .nothing = .ok { Seen.nothing with atSign } := by
  obtain ⟨percent, username⟩ := foldlM_userinfoPart (s := .nothing) escaped.username
  rw [Address.renderUserinfo]
  split
  · exact ⟨false, rfl⟩
  · split
    · refine ⟨true, ?_⟩
      rw [List.foldlM_append, username]
      rfl
    · refine ⟨true, ?_⟩
      obtain ⟨percent', password⟩ := foldlM_userinfoPart
        (s := { Seen.nothing with colons := 1, percent }) escaped.password
      rw [List.foldlM_append, username]
      change List.foldlM Seen.next { Seen.nothing with colons := 1, percent } (a.password ++ ['@']) = _
      rw [List.foldlM_append, password]
      rfl

theorem foldlM_name (chars : ∀ c ∈ text, IsNameChar c) : text.foldlM Seen.next s =
    if FreeOf isUnusable text then .ok { s with atSign := s.atSign && text.isEmpty }
    else .error .invalidUriCharacter := by
  induction text generalizing s with
  | nil => rw [if_pos Text.freeOf_nil, List.isEmpty_nil, Bool.and_true]; rfl
  | cons c text ih =>
      obtain ⟨first, more⟩ := List.forall_mem_cons.mp chars
      obtain ⟨noMark, word⟩ := isAuthorityChar_of_name first
      rw [List.foldlM_cons]
      cases unusable : isUnusable c with
      | true =>
          have refused : ¬ FreeOf isUnusable (c :: text) := fun free =>
            Bool.false_ne_true ((free c List.mem_cons_self).symm.trans unusable)
          rw [next_unusable unusable, if_neg refused]
          rfl
      | false =>
          rw [next_plain noMark (by rw [word, unusable]; rfl)]
          change List.foldlM Seen.next { s with atSign := false } text = _
          simp only [ih more, Text.freeOf_cons, unusable, true_and, List.isEmpty_cons, Bool.and_false,
            Bool.false_and]

theorem foldlM_ipv6 (chars : ∀ c ∈ text, c = ':' ∨ ∃ d, d < 16 ∧ c = Decimal.hexChar d)
    (few : s.colons + text.count ':' ≤ 8) : text.foldlM Seen.next s =
      .ok { s with colons := s.colons + text.count ':', atSign := s.atSign && text.isEmpty } := by
  induction text generalizing s with
  | nil => rw [List.isEmpty_nil, Bool.and_true]; rfl
  | cons c text ih =>
      obtain ⟨first, more⟩ := List.forall_mem_cons.mp chars
      rw [List.foldlM_cons, List.isEmpty_cons, Bool.and_false]
      rcases first with rfl | ⟨d, digit, rfl⟩
      · rw [List.count_cons_self] at few ⊢
        have passed : s.next ':' = .ok { s with colons := s.colons + 1, atSign := false } := by
          rw [Seen.next, if_pos rfl, if_neg (by omega)]
        rw [passed]
        change List.foldlM Seen.next { s with colons := s.colons + 1, atSign := false } text = _
        rw [ih more (show s.colons + 1 + text.count ':' ≤ 8 by omega)]
        simp only [Bool.false_and, Nat.add_assoc, Nat.add_comm 1]
      · have digits : ∀ d < 16, isMark (Decimal.hexChar d) = false ∧
            isAuthorityChar (Decimal.hexChar d) = true ∧ Decimal.hexChar d ≠ ':' := by decide
        obtain ⟨noMark, word, noColon⟩ := digits d digit
        rw [List.count_cons_of_ne noColon] at few ⊢
        rw [next_plain noMark word]
        exact ih (s := { s with atSign := false }) more few

theorem foldlM_host {h : Host} (sound : h.IsSound) (atSign : Bool) : ∃ brackets,
    h.render.foldlM Seen.next { Seen.nothing with atSign } =
      if FreeOf isUnusable h.render then .ok { Seen.nothing with opened := brackets, closed := brackets }
      else .error .invalidUriCharacter := by
  have name {text : List Char} (some_char : text ≠ []) (chars : ∀ c ∈ text, IsNameChar c) :
      text.foldlM Seen.next { Seen.nothing with atSign } =
        if FreeOf isUnusable text then .ok { Seen.nothing with opened := false, closed := false }
        else .error .invalidUriCharacter := by
    rw [foldlM_name chars, List.isEmpty_eq_false_iff.mpr some_char, Bool.and_false]
    rfl
  cases h with
  | domain text => exact ⟨false, name sound.some_char sound.chars⟩
  | ipv4 a => exact ⟨false, name a.render_ne_nil Idna.isNameChar_ipv4⟩
  | ipv6 a =>
      have usable : FreeOf isUnusable (Host.ipv6 a).render := by
        have digits : ∀ d < 16, isUnusable (Decimal.hexChar d) = false := by decide
        refine Text.freeOf_cons.mpr ⟨rfl, Text.freeOf_append.mpr ⟨fun c member => ?_, by decide⟩⟩
        rcases Url.Ipv6.mem_render member with rfl | ⟨d, digit, rfl⟩
        · rfl
        · exact digits d digit
      have inside := foldlM_ipv6 (s := { Seen.nothing with opened := true })
        (fun c => Url.Ipv6.mem_render) (show 0 + a.render.count ':' ≤ 8 by
          rw [Nat.zero_add]; exact a.count_render)
      refine ⟨true, ?_⟩
      rw [if_pos usable, Host.render, List.foldlM_cons]
      change List.foldlM Seen.next { Seen.nothing with opened := true } (a.render ++ [']']) = _
      rw [List.foldlM_append, inside]
      rfl

theorem foldlM_port (a : Address) (brackets : Bool) : ∃ colons ≤ 1,
    a.renderPort.foldlM Seen.next { Seen.nothing with opened := brackets, closed := brackets } =
      .ok { Seen.nothing with colons, opened := brackets, closed := brackets } := by
  rw [Address.renderPort]
  cases a.port with
  | none => exact ⟨0, Nat.zero_le 1, rfl⟩
  | some port =>
      refine ⟨1, Nat.le_refl 1, ?_⟩
      have digits : ∀ c ∈ Decimal.render port.toNat, IsNameChar c ∧ isUnusable c = false := by
        intro c member
        obtain ⟨d, digit, rfl⟩ := Decimal.mem_render member
        have sound : ∀ d < 10, (Decimal.digitChar d).toNat < 0x80 ∧
            Idna.isDomainChar (Decimal.digitChar d) = true ∧ isUnusable (Decimal.digitChar d) = false := by
          decide
        obtain ⟨ascii, valid, usable⟩ := sound d digit
        exact ⟨⟨ascii, valid⟩, usable⟩
      rw [List.foldlM_cons]
      change List.foldlM Seen.next
        { Seen.nothing with colons := 1, opened := brackets, closed := brackets } _ = _
      have usable : FreeOf isUnusable (Decimal.render port.toNat) := fun c member => (digits c member).2
      rw [foldlM_name fun c member => (digits c member).1, if_pos usable]
      rfl

/-- Only the characters of the host can be refused in the authority of an address. -/
theorem checkAuthority_render (escaped : a.IsEscaped) :
    checkAuthority (a.renderUserinfo ++ a.renderHostPort) =
      if FreeOf isUnusable a.host.render then .ok () else .error .invalidUriCharacter := by
  obtain ⟨atSign, userinfo⟩ := foldlM_userinfo escaped
  obtain ⟨brackets, host⟩ := foldlM_host escaped.host atSign
  obtain ⟨colons, few, port⟩ := foldlM_port a brackets
  have some_char : (a.renderUserinfo ++ a.renderHostPort).isEmpty = false :=
    List.isEmpty_eq_false_iff.mpr (List.append_ne_nil_of_right_ne_nil _
      (List.append_ne_nil_of_left_ne_nil escaped.host.render_ne_nil _))
  have ends : Seen.mayEnd { Seen.nothing with colons, opened := brackets, closed := brackets } = true := by
    simp [Seen.mayEnd, Seen.nothing, few]
  rw [checkAuthority, some_char, Address.renderHostPort, List.foldlM_append, userinfo]
  change ((a.host.render ++ a.renderPort).foldlM Seen.next { Seen.nothing with atSign } >>= _) = _
  rw [List.foldlM_append, host]
  split
  · change (a.renderPort.foldlM Seen.next _ >>= _) = _
    rw [port]
    change (if !Seen.mayEnd _ then _ else _) = _
    rw [ends]
    rfl
  · rfl

/-! ## Paths and queries -/

theorem readQuery_front (plain : FreeOf inQuerySet text) (rest : List Char) :
    readQuery (text ++ rest) = (readQuery rest).map (text ++ ·) := by
  induction text with
  | nil => cases read : readQuery rest <;> exact read
  | cons c text ih =>
      obtain ⟨first, more⟩ := Text.freeOf_cons.mp plain
      obtain ⟨noFragment, valid⟩ := isQueryChar_of_query first
      rw [List.cons_append, readQuery, if_neg noFragment, if_pos valid, ih more]
      cases readQuery rest <;> rfl

theorem readResource_front (plain : FreeOf (fun c => c ≠ '/' && inPathSet c) text) (rest : List Char) :
    readResource (text ++ rest) = (readResource rest).map (text ++ ·) := by
  induction text with
  | nil => cases read : readResource rest <;> exact read
  | cons c text ih =>
      obtain ⟨first, more⟩ := Text.freeOf_cons.mp plain
      have here : c ≠ '?' ∧ c ≠ '#' ∧ isPathChar c = true := by
        by_cases slash : c = '/'
        · subst slash
          decide
        · rw [decide_eq_true slash, Bool.true_and] at first
          exact isPathChar_of_path first
      obtain ⟨noQuery, noFragment, valid⟩ := here
      rw [List.cons_append, readResource, if_neg noQuery, if_neg noFragment, if_pos valid, ih more]
      cases readResource rest <;> rfl

theorem readQuery_fragment (part : Option (List Char)) :
    readQuery (Address.renderTail '#' part) = .ok [] := by
  cases part <;> rfl

theorem readResource_render (escaped : a.IsEscaped) :
    readResource (a.renderPath ++ (Address.renderTail '?' a.query ++ Address.renderTail '#' a.fragment)) =
      .ok (a.renderPath ++ Address.renderTail '?' a.query) := by
  have path : FreeOf (fun c => c ≠ '/' && inPathSet c) a.renderPath :=
    Address.renderPath_free escaped.path rfl fun c plain => by rw [plain, Bool.and_false]
  rw [readResource_front path]
  cases given : a.query with
  | none =>
      cases a.fragment with
      | none => rfl
      | some fragment => rfl
  | some query =>
      change ((readQuery (query ++ Address.renderTail '#' a.fragment)).map ('?' :: ·)).map _ = _
      rw [readQuery_front (escaped.query query given), readQuery_fragment]
      simp [Except.map, Address.renderTail]

/-! ## Addresses -/

/-- What the text of an address asks for, without its fragment. -/
def ofAddress (a : Address) : Target where
  scheme := a.scheme.name.toList
  authority := a.renderUserinfo ++ a.renderHostPort
  resource := a.renderPath ++ Address.renderTail '?' a.query

theorem render_ofAddress (a : Address) : (ofAddress a).render = a.renderTarget := by
  simp [render, ofAddress, Address.renderTarget]

/-- The only at sign of an escaped user name and password is the one that ends them. -/
theorem renderUserinfo_cases (escaped : a.IsEscaped) :
    a.renderUserinfo = [] ∨ ∃ front, a.renderUserinfo = front ++ ['@'] ∧ FreeOf (· = '@') front := by
  have noAt {text : List Char} (plain : FreeOf inUserinfoSet text) : FreeOf (· = '@') text := by
    refine plain.imp fun c plain => decide_eq_false ?_
    rintro rfl
    cases plain
  rw [Address.renderUserinfo]
  split
  · exact .inl rfl
  · split
    · exact .inr ⟨a.username, rfl, noAt escaped.username⟩
    · refine .inr ⟨a.username ++ ':' :: a.password, by simp, ?_⟩
      exact Text.freeOf_append.mpr
        ⟨noAt escaped.username, Text.freeOf_cons.mpr ⟨by decide, noAt escaped.password⟩⟩

theorem host_ofAddress (escaped : a.IsEscaped) : (ofAddress a).host = a.renderHostPort := by
  have hostPort : FreeOf (· = '@') a.renderHostPort :=
    Address.renderHostPort_free escaped.host (fun c sound => decide_eq_false (sound.ne (by decide)))
      (by decide)
  rcases renderUserinfo_cases escaped with none_given | ⟨front, given, noAt⟩
  · simp only [host, ofAddress, none_given, List.nil_append, Text.cut_free hostPort]
  · simp only [host, ofAddress, given, List.append_assoc, List.singleton_append,
      Text.cut_at noAt (decide_eq_true rfl)]

/-! ## Whole texts -/

theorem endsAuthority_of_host {c : Char} (inside : Url.endsAuthority c = false) : endsAuthority c = false := by
  simp only [Url.endsAuthority, Url.isSlash, Bool.or_eq_false_iff] at inside
  simp only [endsAuthority, inside.1.1.1, inside.1.2, inside.2, Bool.or_false]

theorem split_render (a : Address) : a.render = a.scheme.name.toList ++ ':' :: '/' :: '/' ::
    ((a.renderUserinfo ++ a.renderHostPort) ++
      (a.renderPath ++ (Address.renderTail '?' a.query ++ Address.renderTail '#' a.fragment))) := by
  simp [Address.render, Address.renderTarget]

/-- The text of an address is read as a target, unless it is too long or its host is unusable. The
    parts of an address are escaped, and what escapes are made of passes in every part; only the
    name of a host is not escaped, and it may hold four characters that no target may. -/
theorem parse_render (escaped : a.IsEscaped) : parse a.render =
    if maxLength < (Utf8.encode a.render).length then .error .uriTooLong
    else if FreeOf isUnusable a.host.render then .ok (ofAddress a)
    else .error .invalidUriCharacter := by
  have scheme : FreeOf (· = ':') a.scheme.name.toList ∧ a.scheme.name.toList.all isSchemeChar = true ∧
      a.scheme.name.toList.length ≤ maxSchemeLength := by
    cases a.scheme <;> decide
  have inside : ∀ c ∈ a.renderUserinfo ++ a.renderHostPort, (!endsAuthority c) = true := by
    intro c member
    rw [endsAuthority_of_host (Address.authority_free escaped c member)]
    rfl
  have ends : BeginsWith (fun c => !(!endsAuthority c)) (a.renderPath ++ (Address.renderTail '?' a.query ++
      Address.renderTail '#' a.fragment)) := by
    rintro c ⟨⟩
    rfl
  have cut := Text.cut_at scheme.1 (decide_eq_true rfl) ('/' :: '/' ::
    ((a.renderUserinfo ++ a.renderHostPort) ++
      (a.renderPath ++ (Address.renderTail '?' a.query ++ Address.renderTail '#' a.fragment))))
  rw [← split_render] at cut
  simp only [parse, cut, Text.takeWhile_front inside ends, Text.dropWhile_front inside ends,
    checkAuthority_render escaped, readResource_render escaped, scheme.2.1,
    Nat.not_lt.mpr scheme.2.2, Bool.not_true, Bool.false_eq_true, if_false]
  split
  · rfl
  · split <;> rfl

end WampClient.Http.Target
