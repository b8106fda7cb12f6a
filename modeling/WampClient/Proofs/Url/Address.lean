import WampClient.Proofs.Url.Host
import WampClient.Proofs.Url.Ports
import WampClient.Proofs.Url.Spelling

/-! # The normal form of web addresses

What is read as a web address is in normal form: escaped where it must be, without dot segments and
without the default port. The text of an address in normal form is read as that address.
-/

namespace WampClient.Url

open Text (FreeOf BeginsWith)

variable {text : List Char}

/-! ## Paths -/

/-- What stands between two slashes of a path before dot segments are resolved. -/
structure IsSegmentText (segment : List Char) : Prop where
  escaped : FreeOf inPathSet segment
  noSlash : FreeOf isSlash segment

structure IsSegment (segment : List Char) : Prop extends IsSegmentText segment where
  notSingle : isSingleDot segment = false
  notDouble : isDoubleDot segment = false

theorem isSegment_nil : IsSegment [] :=
  { escaped := Text.freeOf_nil, noSlash := Text.freeOf_nil, notSingle := by decide,
    notDouble := by decide }

structure IsPath (path : List (List Char)) : Prop where
  some_segment : path ≠ []
  segments : ∀ segment ∈ path, IsSegment segment

theorem resolveDots_normal {above path : List (List Char)} (normal : ∀ segment ∈ path, IsSegment segment) :
    resolveDots above path = above.reverse ++ path := by
  induction path generalizing above with
  | nil => rw [resolveDots, List.append_nil]
  | cons segment path ih =>
      obtain ⟨first, more⟩ := List.forall_mem_cons.mp normal
      have rest : resolveDots (segment :: above) path = above.reverse ++ segment :: path := by
        rw [ih more, List.reverse_cons, List.append_assoc, List.singleton_append]
      cases path with
      | nil =>
          simp only [resolveDots, first.notSingle, first.notDouble, Bool.false_eq_true, if_false,
            List.reverse_cons]
      | cons next path =>
          simp only [resolveDots, first.notSingle, first.notDouble, Bool.false_eq_true, if_false, rest]

theorem mem_goUp {above : List (List Char)} {segment : List Char} (member : segment ∈ goUp above) :
    segment ∈ above := by
  cases above with
  | nil => exact member
  | cons first above =>
      rw [goUp] at member
      split at member
      · exact member
      · exact List.mem_cons_of_mem first member

theorem isPath_reverse {above : List (List Char)} {last : List Char}
    (normal : ∀ segment ∈ above, IsSegment segment) (lastNormal : IsSegment last) :
    IsPath (last :: above).reverse where
  some_segment := by simp
  segments segment member := by
    rcases List.mem_cons.mp (List.mem_reverse.mp member) with rfl | member
    · exact lastNormal
    · exact normal segment member

theorem resolveDots_isPath {above path : List (List Char)} (normal : ∀ segment ∈ above, IsSegment segment)
    (texts : ∀ segment ∈ path, IsSegmentText segment) (some_segment : path ≠ []) :
    IsPath (resolveDots above path) := by
  induction path generalizing above with
  | nil => exact absurd rfl some_segment
  | cons segment path ih =>
      obtain ⟨first, more⟩ := List.forall_mem_cons.mp texts
      have up : ∀ segment ∈ goUp above, IsSegment segment := fun segment member =>
        normal segment (mem_goUp member)
      have kept (notDouble : ¬ isDoubleDot segment = true) (notSingle : ¬ isSingleDot segment = true) :
          IsSegment segment :=
        { first with
          notSingle := Bool.eq_false_iff.mpr notSingle
          notDouble := Bool.eq_false_iff.mpr notDouble }
      cases path with
      | nil =>
          rw [resolveDots]
          split
          · exact isPath_reverse up isSegment_nil
          · split
            · exact isPath_reverse normal isSegment_nil
            · exact isPath_reverse normal (kept ‹_› ‹_›)
      | cons next path =>
          rw [resolveDots]
          · split
            · exact ih up more (List.cons_ne_nil _ _)
            · split
              · exact ih normal more (List.cons_ne_nil _ _)
              · exact ih (List.forall_mem_cons.mpr ⟨kept ‹_› ‹_›, normal⟩) more (List.cons_ne_nil _ _)
          · exact List.cons_ne_nil _ _

theorem parsePath_isPath (text : List Char) : IsPath (parsePath text) := by
  refine resolveDots_isPath (List.forall_mem_nil _) ?_ ?_
  · intro segment member
    obtain ⟨piece, inPieces, rfl⟩ := List.mem_map.mp member
    exact
      { escaped := percentEncode_free (by decide) piece
        noSlash := percentEncode_free_of (by decide) fun c inPiece => (Text.mem_splitBy inPieces c inPiece).1 }
  · simp [Text.splitBy_ne_nil]

theorem parsePath_render {path : List (List Char)} (normal : IsPath path) :
    parsePath ('/' :: Text.joinWith '/' path) = path := by
  have pieces : Text.splitBy isSlash (Text.joinWith '/' path) = path :=
    Text.splitBy_joinWith (by decide) normal.some_segment
      fun segment member => (normal.segments segment member).noSlash
  have escaped : path.map (percentEncode inPathSet) = path :=
    (List.map_congr_left fun segment member =>
      percentEncode_of_free (normal.segments segment member).escaped).trans (List.map_id path)
  change resolveDots [] ((Text.splitBy isSlash (Text.joinWith '/' path)).map (percentEncode inPathSet)) = _
  rw [pieces, escaped, resolveDots_normal normal.segments]
  rfl

/-! ## By scheme -/

theorem parse_known {name rest : List Char} {s : Scheme} (found : cutScheme (strip text) = some (name, rest))
    (known : Scheme.ofName? (String.ofList name) = some s) :
    parse text = (parseAddress s rest).map .address := by
  simp only [parse, found, known]

/-- A text that begins with the name of a scheme, in whatever case, is read as an address. -/
theorem parse_scheme {scheme rest : List Char} {s : Scheme} (split : strip text = scheme ++ ':' :: rest)
    (named : scheme.map Char.toLower = s.name.toList) :
    parse text = (parseAddress s rest).map .address := by
  obtain ⟨some_char, lower⟩ := s.name_lower
  have found : cutScheme (strip text) = some (s.name.toList, rest) :=
    split ▸ cutScheme_at some_char lower named rest
  exact parse_known found (by rw [String.ofList_toList, Scheme.ofName?_name])

/-- Of a URL of another scheme nothing but the scheme is kept. -/
theorem parse_unknown {name rest : List Char} (found : cutScheme (strip text) = some (name, rest))
    (unknown : Scheme.ofName? (String.ofList name) = none) :
    ∃ check : Except Fault Unit, parse text = check.map fun () => .other (String.ofList name) := by
  simp only [parse, found, unknown]
  exact ⟨_, rfl⟩

theorem parse_address {a : Address} (read : parse text = .ok (.address a)) :
    ∃ scheme rest s, strip text = scheme ++ ':' :: rest ∧ scheme.map Char.toLower = s.name.toList ∧
      parseAddress s rest = .ok a := by
  cases found : cutScheme (strip text) with
  | none =>
      simp only [parse, found] at read
      cases read
  | some parts =>
      obtain ⟨name, rest⟩ := parts
      obtain ⟨scheme, split, lower⟩ := cutScheme_sound found
      cases known : Scheme.ofName? (String.ofList name) with
      | none =>
          obtain ⟨check, same⟩ := parse_unknown found known
          rw [same] at read
          cases check <;> cases read
      | some s =>
          rw [parse_known found known] at read
          cases whole : parseAddress s rest with
          | error fault =>
              rw [whole] at read
              cases read
          | ok b =>
              rw [whole] at read
              cases read
              refine ⟨scheme, rest, s, split, ?_, whole⟩
              rw [lower, Scheme.name_of_ofName? known, String.toList_ofList]

/-- The port is that of the digits that are written, or the default of the scheme without any. -/
theorem Spelling.readPort_sound {p : Spelling} {s : Scheme} {port : Option UInt16}
    (read : p.readPort s = .ok port) :
    port ≠ some s.defaultPort ∧ ∃ ds, (∀ d ∈ ds, d < 10) ∧ p.port.getD [] = ds.map Decimal.digitChar ∧
      (port.getD s.defaultPort).toNat = if ds = [] then s.defaultPort.toNat else Decimal.value ds := by
  rw [readPort] at read
  cases written : p.port with
  | none =>
      rw [written] at read
      cases read
      exact ⟨(Option.some_ne_none _).symm, [], List.forall_mem_nil _, rfl, rfl⟩
  | some digits =>
      rw [written] at read
      exact parsePort_sound read

/-! ## Brackets around hosts -/

theorem bracketed_free {inside : Bool} (noBracket : FreeOf (fun c => c = '[' || c = ']') text) :
    bracketed inside text = inside := by
  induction text with
  | nil => rfl
  | cons c text ih =>
      obtain ⟨first, more⟩ := Text.freeOf_cons.mp noBracket
      obtain ⟨notOpen, notClose⟩ := (Bool.or_eq_false_iff).mp first
      rw [bracketed, List.foldl_cons, if_neg (of_decide_eq_false notOpen),
        if_neg (of_decide_eq_false notClose)]
      exact ih more

theorem guarded_of_free {inside : Bool} (noColon : FreeOf (· = ':') text) : Guarded inside text := by
  rintro before behind rfl
  have colon := noColon ':' (List.mem_append_right before List.mem_cons_self)
  cases colon

theorem guarded_brackets (noBracket : FreeOf (fun c => c = '[' || c = ']') text) :
    Guarded false ('[' :: (text ++ [']'])) := by
  refine guarded_cons.mpr ⟨by decide, ?_⟩
  change Guarded true (text ++ [']'])
  induction text with
  | nil => exact guarded_cons.mpr ⟨by decide, guarded_of_free Text.freeOf_nil⟩
  | cons c text ih =>
      obtain ⟨first, more⟩ := Text.freeOf_cons.mp noBracket
      obtain ⟨notOpen, notClose⟩ := (Bool.or_eq_false_iff).mp first
      refine guarded_cons.mpr ⟨fun colon => Bool.noConfusion colon.2, ?_⟩
      rw [if_neg (of_decide_eq_false notOpen), if_neg (of_decide_eq_false notClose)]
      exact ih more

/-- The colons of a host stand between its brackets, and the brackets are closed. -/
theorem Host.render_guarded {h : Host} (stable : h.IsStable) :
    Guarded false h.render ∧ bracketed false h.render = false := by
  have plain {name : List Char} (chars : ∀ c ∈ name, Idna.IsNameChar c) :
      Guarded false name ∧ bracketed false name = false := by
    constructor
    · exact guarded_of_free fun c member => decide_eq_false ((chars c member).ne (by decide))
    · refine bracketed_free fun c member => Bool.or_eq_false_iff.mpr ⟨?_, ?_⟩
      · exact decide_eq_false ((chars c member).ne (by decide))
      · exact decide_eq_false ((chars c member).ne (by decide))
  cases h with
  | domain name => exact plain stable.1.chars
  | ipv4 a => exact plain Idna.isNameChar_ipv4
  | ipv6 a =>
      constructor
      · refine guarded_brackets fun c member => ?_
        rcases Ipv6.mem_render member with rfl | ⟨d, digit, rfl⟩
        · decide
        · have noBracket : ∀ d, d < 16 →
              (Decimal.hexChar d = '[' || Decimal.hexChar d = ']') = false := by decide
          exact noBracket d digit
      · rw [render, bracketed, List.foldl_cons, List.foldl_append]
        rfl

/-! ## Addresses in normal form -/

/-- An address whose parts are escaped and whose host is sound. -/
structure Address.IsEscaped (a : Address) : Prop where
  username : FreeOf inUserinfoSet a.username
  password : FreeOf inUserinfoSet a.password
  host : a.host.IsSound
  path : IsPath a.path
  query : ∀ text ∈ a.query, FreeOf inQuerySet text
  fragment : ∀ text ∈ a.fragment, FreeOf inFragmentSet text

structure Address.IsNormal (a : Address) : Prop where
  username : FreeOf inUserinfoSet a.username
  password : FreeOf inUserinfoSet a.password
  host : a.host.IsStable
  port : a.port ≠ some a.scheme.defaultPort
  path : IsPath a.path
  query : ∀ text ∈ a.query, FreeOf inQuerySet text
  fragment : ∀ text ∈ a.fragment, FreeOf inFragmentSet text

namespace Address

variable {a : Address}

theorem IsNormal.escaped (normal : a.IsNormal) : a.IsEscaped :=
  { normal with host := normal.host.sound }

def spelling (a : Address) : Spelling where
  scheme := a.scheme.name.toList
  slashes := ['/', '/']
  userinfo :=
    if a.username.isEmpty && a.password.isEmpty then none
    else if a.password.isEmpty then some a.username
    else some (a.username ++ ':' :: a.password)
  host := a.host.render
  port := a.port.map fun port => Decimal.render port.toNat
  tail := a.renderPath ++ (renderTail '?' a.query ++ renderTail '#' a.fragment)

theorem hostPort_spelling (a : Address) : a.spelling.hostPort = a.renderHostPort := by
  rw [renderHostPort, renderPort, Spelling.hostPort, spelling]
  cases a.port with
  | none => exact (List.append_nil _).symm
  | some port => rfl

theorem authority_spelling (a : Address) :
    a.spelling.authority = a.renderUserinfo ++ a.renderHostPort := by
  rw [Spelling.authority, hostPort_spelling, renderUserinfo, spelling]
  dsimp only
  cases a.username.isEmpty && a.password.isEmpty with
  | true => rfl
  | false =>
      cases a.password.isEmpty with
      | true => simp
      | false => simp

theorem text_spelling (a : Address) : a.spelling.text = a.render := by
  rw [Spelling.text, Spelling.rest, authority_spelling]
  simp only [spelling, render, renderTarget, List.append_assoc, List.cons_append, List.nil_append]

/-! ## Marks stand where parts end -/

theorem endsAuthority_of_userinfo {c : Char} (plain : inUserinfoSet c = false) :
    endsAuthority c = false := by
  refine Bool.eq_false_iff.mpr fun ends => ?_
  simp only [endsAuthority, isSlash, Bool.or_eq_true, decide_eq_true_eq] at ends
  rcases ends with ((rfl | rfl) | rfl) | rfl <;> exact absurd plain (by decide)

theorem endsAuthority_of_name {c : Char} (sound : Idna.IsNameChar c) : endsAuthority c = false := by
  have slash := sound.ne (x := '/') (by decide)
  have backslash := sound.ne (x := '\\') (by decide)
  have query := sound.ne (x := '?') (by decide)
  have fragment := sound.ne (x := '#') (by decide)
  simp [endsAuthority, isSlash, slash, backslash, query, fragment]

theorem renderUserinfo_free {other : Char → Bool} (username : FreeOf other a.username)
    (password : FreeOf other a.password) (colon : other ':' = false) (at_ : other '@' = false) :
    FreeOf other a.renderUserinfo := by
  have last : FreeOf other ['@'] := Text.freeOf_cons.mpr ⟨at_, Text.freeOf_nil⟩
  rw [renderUserinfo]
  split
  · exact Text.freeOf_nil
  · split
    · exact Text.freeOf_append.mpr ⟨username, last⟩
    · exact Text.freeOf_append.mpr
        ⟨username, Text.freeOf_cons.mpr ⟨colon, Text.freeOf_append.mpr ⟨password, last⟩⟩⟩

theorem renderHostPort_free {other : Char → Bool} (host : a.host.IsSound)
    (names : ∀ c, Idna.IsNameChar c → other c = false)
    (marks : FreeOf other [':', '[', ']']) : FreeOf other a.renderHostPort := by
  refine Text.freeOf_append.mpr ⟨Host.render_free host names marks, ?_⟩
  rw [renderPort]
  cases a.port with
  | none => exact Text.freeOf_nil
  | some port =>
      refine Text.freeOf_cons.mpr ⟨marks ':' List.mem_cons_self, fun c member => ?_⟩
      obtain ⟨d, digit, rfl⟩ := Decimal.mem_render member
      have same : ∀ d, d < 10 → Decimal.digitChar d = Decimal.hexChar d := by decide
      exact names _ (same d digit ▸ Idna.isNameChar_hexChar (Nat.lt_trans digit (by decide)))

theorem authority_free (escaped : a.IsEscaped) :
    FreeOf endsAuthority (a.renderUserinfo ++ a.renderHostPort) :=
  Text.freeOf_append.mpr
    ⟨renderUserinfo_free (escaped.username.imp fun _ => endsAuthority_of_userinfo)
      (escaped.password.imp fun _ => endsAuthority_of_userinfo) rfl rfl,
      renderHostPort_free escaped.host (fun _ => endsAuthority_of_name) (by decide)⟩

theorem renderPath_begins (a : Address) (rest : List Char) :
    BeginsWith endsAuthority (a.renderPath ++ rest) := by
  rintro c ⟨⟩
  rfl

theorem isCut_spelling (normal : a.IsNormal) : a.spelling.IsCut where
  slashes := show ∀ c ∈ ['/', '/'], isSlash c = true from Text.forall_mem_of_all (by decide)
  authority := by
    rw [authority_spelling]
    exact authority_free normal.escaped
  hostPort := by
    rw [hostPort_spelling]
    exact renderHostPort_free normal.host.sound (fun c sound => decide_eq_false (sound.ne (by decide)))
      (by decide)
  some_host := normal.host.sound.render_ne_nil
  guarded := (Host.render_guarded normal.host).1
  closed := fun _ => (Host.render_guarded normal.host).2
  tail := a.renderPath_begins _

/-! ## Reading an address in normal form -/

theorem noColon_of_userinfo {username : List Char} (plain : FreeOf inUserinfoSet username) :
    FreeOf (· = ':') username := by
  refine plain.imp fun c plain => decide_eq_false ?_
  rintro rfl
  cases plain

theorem parseUserinfo_alone {username : List Char} (plain : FreeOf inUserinfoSet username) :
    parseUserinfo username = (username, []) := by
  rw [parseUserinfo, Text.cut_free (noColon_of_userinfo plain)]
  dsimp only
  rw [percentEncode_of_free plain]
  rfl

theorem parseUserinfo_both {username password : List Char} (plain : FreeOf inUserinfoSet username)
    (plainPassword : FreeOf inUserinfoSet password) :
    parseUserinfo (username ++ ':' :: password) = (username, password) := by
  rw [parseUserinfo, Text.cut_at (noColon_of_userinfo plain) (decide_eq_true rfl)]
  dsimp only
  rw [percentEncode_of_free plain, Option.getD_some, percentEncode_of_free plainPassword]

theorem parseUserinfo_spelling (normal : a.IsNormal) :
    parseUserinfo (a.spelling.userinfo.getD []) = (a.username, a.password) := by
  have both := parseUserinfo_both normal.username normal.password
  have alone := parseUserinfo_alone normal.username
  rw [spelling]
  dsimp only
  cases pass : a.password with
  | nil =>
      cases user : a.username with
      | nil => rfl
      | cons c cs =>
          rw [user] at alone
          exact alone
  | cons c cs =>
      rw [pass] at both
      rw [List.isEmpty_cons, Bool.and_false]
      exact both

theorem readPort_spelling (normal : a.IsNormal) : a.spelling.readPort a.scheme = .ok a.port := by
  rw [Spelling.readPort, spelling]
  cases given : a.port with
  | none => rfl
  | some port =>
      exact parsePort_render fun same => normal.port (given.trans (congrArg some same))

theorem cut_renderTail {mark : Char} {front : List Char} (free : FreeOf (· = mark) front)
    (part : Option (List Char)) : Text.cut (· = mark) (front ++ renderTail mark part) = (front, part) := by
  cases part with
  | none => rw [renderTail, List.append_nil, Text.cut_free free]
  | some behind => exact Text.cut_at free (decide_eq_true rfl) behind

theorem renderPath_free {other : Char → Bool} (normal : IsPath a.path) (slash : other '/' = false)
    (escaped : ∀ c, inPathSet c = false → other c = false) : FreeOf other a.renderPath := by
  refine Text.freeOf_cons.mpr ⟨slash, fun c member => ?_⟩
  rcases Text.mem_joinWith member with rfl | ⟨segment, inPath, inSegment⟩
  · exact slash
  · exact escaped c ((normal.segments segment inPath).escaped c inSegment)

theorem renderTail_free {other : Char → Bool} {mark : Char} {part : Option (List Char)}
    (free : ∀ text ∈ part, FreeOf other text) (isMark : other mark = false) :
    FreeOf other (renderTail mark part) := by
  cases part with
  | none => exact Text.freeOf_nil
  | some text => exact Text.freeOf_cons.mpr ⟨isMark, free text rfl⟩

theorem resource_free (escaped : a.IsEscaped) :
    FreeOf (· = '#') (a.renderPath ++ renderTail '?' a.query) := by
  refine Text.freeOf_append.mpr ⟨renderPath_free escaped.path rfl fun c plain => ?_,
    renderTail_free (fun text given => (escaped.query text given).imp fun c plain => ?_) rfl⟩ <;>
  · refine decide_eq_false ?_
    rintro rfl
    cases plain

theorem cut_tail (normal : a.IsNormal) :
    Text.cut (· = '#') a.spelling.tail = (a.renderPath ++ renderTail '?' a.query, a.fragment) := by
  rw [spelling]
  dsimp only
  rw [← List.append_assoc, cut_renderTail (resource_free normal.escaped)]

theorem cut_render (escaped : a.IsEscaped) : Text.cut (· = '#') a.render = (a.renderTarget, a.fragment) := by
  refine cut_renderTail ?_ a.fragment
  have scheme : FreeOf (· = '#') a.scheme.name.toList := by
    cases a.scheme <;> decide
  have authority : FreeOf (· = '#') (a.renderUserinfo ++ a.renderHostPort) :=
    (authority_free escaped).imp fun c inside => (Bool.or_eq_false_iff.mp inside).2
  have parts : a.renderTarget = a.scheme.name.toList ++ ':' :: '/' :: '/' ::
      ((a.renderUserinfo ++ a.renderHostPort) ++ (a.renderPath ++ renderTail '?' a.query)) := by
    simp [renderTarget]
  rw [parts, Text.freeOf_append, Text.freeOf_cons, Text.freeOf_cons, Text.freeOf_cons, Text.freeOf_append]
  exact ⟨scheme, by decide, by decide, by decide, authority, resource_free escaped⟩

theorem cut_target (normal : a.IsNormal) :
    Text.cut (· = '?') (a.renderPath ++ renderTail '?' a.query) = (a.renderPath, a.query) := by
  refine cut_renderTail (renderPath_free normal.path rfl fun c plain => decide_eq_false ?_) a.query
  rintro rfl
  cases plain

theorem map_percentEncode {set : Char → Bool} {part : Option (List Char)}
    (free : ∀ text ∈ part, FreeOf set text) : part.map (percentEncode set) = part := by
  cases part with
  | none => rfl
  | some text => exact congrArg some (percentEncode_of_free (free text rfl))

theorem parseAddress_spelling (normal : a.IsNormal) :
    parseAddress a.scheme a.spelling.rest = .ok a := by
  rw [Spelling.parseAddress_eq (isCut_spelling normal), parseUserinfo_spelling normal,
    readPort_spelling normal, cut_tail normal, cut_target normal]
  have host : Host.parse a.spelling.host = .ok a.host := Host.parse_render normal.host
  rw [host, map_percentEncode normal.query, map_percentEncode normal.fragment]
  change Except.ok _ = _
  rw [renderPath, parsePath_render normal.path]

/-! ## The text of an address in normal form -/

theorem strip_visible (visible : ∀ c ∈ text, IsVisible c) : strip text = text := by
  have inner {text : List Char} (visible : ∀ c ∈ text, IsVisible c) : text.dropWhile isEdge = text := by
    cases text with
    | nil => rfl
    | cons c text =>
        have plain : ¬ isEdge c = true := by
          simp only [isEdge, decide_eq_true_eq, Nat.not_le]
          exact (visible c List.mem_cons_self).1
        exact List.dropWhile_cons_of_neg plain
  rw [strip, inner visible, inner fun c member => visible c (List.mem_reverse.mp member), List.reverse_reverse]
  refine List.filter_eq_self.mpr fun c member => ?_
  refine (Bool.not_eq_true' _).mpr (Bool.eq_false_iff.mpr fun dropped => ?_)
  simp only [isDropped, Bool.or_eq_true, decide_eq_true_eq] at dropped
  rcases dropped with (rfl | rfl) | rfl <;> exact absurd (visible _ member) (by decide)

theorem render_visible (escaped : a.IsEscaped) : ∀ c ∈ a.render, IsVisible c := by
  have invisible : FreeOf (fun c => decide (¬ IsVisible c)) a.render := by
    have visible {c : Char} (visible : IsVisible c) : decide (¬ IsVisible c) = false :=
      decide_eq_false (not_not_intro visible)
    have userinfo {c : Char} (plain : inUserinfoSet c = false) : IsVisible c :=
      isVisible_of_path (path_of_userinfo plain)
    have scheme : FreeOf (fun c => decide (¬ IsVisible c)) a.scheme.name.toList := by
      cases a.scheme <;> decide
    simp only [render, renderTarget, Text.freeOf_append, Text.freeOf_cons]
    refine ⟨⟨scheme, by decide, by decide, by decide, ?_, ?_, ?_, ?_⟩, ?_⟩
    · exact renderUserinfo_free (escaped.username.imp fun _ plain => visible (userinfo plain))
        (escaped.password.imp fun _ plain => visible (userinfo plain)) rfl rfl
    · exact renderHostPort_free escaped.host (fun _ sound => visible sound.visible) (by decide)
    · exact renderPath_free escaped.path rfl fun _ plain => visible (isVisible_of_path plain)
    · exact renderTail_free (fun text given => (escaped.query text given).imp fun _ plain =>
        visible (isVisible_of_query plain)) rfl
    · exact renderTail_free (fun text given => (escaped.fragment text given).imp fun _ plain =>
        visible (isVisible_of_fragment plain)) rfl
  exact fun c member => Decidable.not_not.mp (of_decide_eq_false (invisible c member))

/-- An address in normal form is read from its text. The text is put together as a spelling, no part
    of which goes on behind the mark that ends it; so each part is read as it was written. -/
theorem parse_render (normal : a.IsNormal) : Url.parse a.render = .ok (.address a) := by
  have lower_case : a.spelling.scheme.map Char.toLower = a.scheme.name.toList := by
    change a.scheme.name.toList.map Char.toLower = _
    cases a.scheme <;> decide
  have split : strip a.render = a.spelling.scheme ++ ':' :: a.spelling.rest := by
    rw [strip_visible (render_visible normal.escaped), ← text_spelling]
    rfl
  rw [parse_scheme split lower_case, parseAddress_spelling normal]
  rfl

/-! ## What was read is in normal form -/

theorem map_percentEncode_free {set : Char → Bool} (escapes : FreeOf set escapeChars)
    (part : Option (List Char)) : ∀ text ∈ part.map (percentEncode set), FreeOf set text := by
  rintro text given
  obtain ⟨written, _, rfl⟩ := Option.map_eq_some_iff.mp given
  exact percentEncode_free escapes written

theorem parseAddress_ok {p : Spelling} {s : Scheme} (cut : p.IsCut) (read : parseAddress s p.rest = .ok a) :
    a.scheme = s ∧ Host.parse p.host = .ok a.host ∧ p.readPort s = .ok a.port := by
  rw [Spelling.parseAddress_eq cut] at read
  cases host : Host.parse p.host with
  | error fault =>
      rw [host] at read
      cases read
  | ok h =>
      cases port : p.readPort s with
      | error fault =>
          rw [host, port] at read
          cases read
      | ok n =>
          rw [host, port] at read
          cases read
          exact ⟨rfl, rfl, rfl⟩

theorem parseAddress_isEscaped {s : Scheme} (read : parseAddress s text = .ok a) : a.IsEscaped := by
  obtain ⟨p, _, rfl, cut⟩ := Spelling.exists_rest [] read
  obtain ⟨rfl, host, port⟩ := parseAddress_ok cut read
  rw [Spelling.parseAddress_eq cut, host, port] at read
  obtain ⟨scheme, username, password, h, n, path, query, fragment⟩ := a
  cases read
  exact
    { username := percentEncode_free (by decide) _
      password := percentEncode_free (by decide) _
      host := Host.isSound_of_parse host
      path := parsePath_isPath _
      query := map_percentEncode_free (by decide) _
      fragment := map_percentEncode_free (by decide) _ }

theorem parseAddress_isNormal {s : Scheme} (read : parseAddress s text = .ok a)
    (fixed : ∀ name, a.host = .domain name → Idna.toAscii? name = some name) : a.IsNormal := by
  have escaped := parseAddress_isEscaped read
  obtain ⟨p, _, rfl, cut⟩ := Spelling.exists_rest [] read
  obtain ⟨rfl, _, port⟩ := parseAddress_ok cut read
  exact
    { escaped with
      host := escaped.host.stable fixed
      port := (Spelling.readPort_sound port).1 }

end Address

end WampClient.Url
