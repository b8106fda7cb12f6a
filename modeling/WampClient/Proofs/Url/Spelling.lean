import WampClient.Proofs.Text.Pieces
import WampClient.Url.Parser

/-! # How web addresses are spelled

A text that is read as a web address is cut at its marks into a scheme, slashes, a user name and
password, a host, a port and the rest. The reading goes by these parts.
-/

namespace WampClient.Url

open Text (FreeOf BeginsWith)

/-! ## Schemes -/

def IsLower (c : Char) : Prop :=
  'a' ≤ c ∧ c ≤ 'z'

instance (c : Char) : Decidable (IsLower c) :=
  inferInstanceAs (Decidable (_ ∧ _))

theorem isLetter_of_toLower {c : Char} (lower : IsLower c.toLower) : isLetter c = true := by
  simp only [isLetter, Bool.or_eq_true, Bool.and_eq_true, decide_eq_true_eq]
  unfold Char.toLower at lower
  split at lower
  · rename_i upper
    exact .inr upper
  · exact .inl lower

theorem Scheme.name_lower (s : Scheme) : s.name.toList ≠ [] ∧ ∀ c ∈ s.name.toList, IsLower c := by
  cases s <;> exact ⟨by decide, Text.forall_mem_of_all (by decide)⟩

theorem Scheme.ofName?_name (s : Scheme) : ofName? s.name = some s := by
  cases s <;> decide

theorem Scheme.name_of_ofName? {name : String} {s : Scheme} (found : ofName? name = some s) :
    s.name = name := by
  unfold ofName? at found
  simpa using List.find?_some found

theorem cutScheme_at {scheme name : List Char} (some_char : name ≠ []) (lower : ∀ c ∈ name, IsLower c)
    (named : scheme.map Char.toLower = name) (rest : List Char) :
    cutScheme (scheme ++ ':' :: rest) = some (name, rest) := by
  have letters : ∀ c ∈ scheme, isLetter c = true := fun c member =>
    isLetter_of_toLower (lower _ (named ▸ List.mem_map_of_mem member))
  have noColon : FreeOf (· = ':') scheme := by
    intro c member
    refine decide_eq_false ?_
    rintro rfl
    exact absurd (letters ':' member) (by decide)
  have valid : scheme.all isSchemeChar = true := List.all_eq_true.mpr fun c member => by
    simp only [isSchemeChar, letters c member, Bool.true_or]
  cases scheme with
  | nil => exact absurd named.symm some_char
  | cons c scheme =>
      have split := Text.cut_at noColon (decide_eq_true rfl) rest
      rw [List.cons_append] at split ⊢
      simp only [cutScheme, letters c List.mem_cons_self, if_true, split, valid, named]

theorem cutScheme_sound {text name rest : List Char} (found : cutScheme text = some (name, rest)) :
    ∃ scheme, text = scheme ++ ':' :: rest ∧ scheme.map Char.toLower = name := by
  have cut := Text.cut_cases (· = ':') text
  unfold cutScheme at found
  split at found
  · split at found
    · rcases cut with free | ⟨scheme, colon, behind, split, free, separates⟩
      · rw [Text.cut_free free] at found
        cases found
      · rw [split, Text.cut_at free separates] at found
        dsimp only at found
        split at found
        · cases found
          cases of_decide_eq_true separates
          exact ⟨scheme, split, rfl⟩
        · cases found
    · cases found
  · cases found

/-! ## Ports -/

section

variable {inside : Bool} {text host : List Char}

/-- Whether a text ends between brackets, if it begins between brackets or not. -/
def bracketed (inside : Bool) (text : List Char) : Bool :=
  text.foldl (fun inside c => if c = '[' then true else if c = ']' then false else inside) inside

def Guarded (inside : Bool) (text : List Char) : Prop :=
  ∀ before behind, text = before ++ ':' :: behind → bracketed inside before = true

theorem guarded_cons {c : Char} : Guarded inside (c :: text) ↔ ¬ (c = ':' ∧ inside = false) ∧
    Guarded (if c = '[' then true else if c = ']' then false else inside) text := by
  constructor
  · intro guarded
    constructor
    · rintro ⟨rfl, rfl⟩
      cases guarded [] text rfl
    · rintro before behind rfl
      exact guarded (c :: before) behind rfl
  · rintro ⟨other, guarded⟩ before behind split
    cases before with
    | nil =>
        cases split
        exact (Bool.not_eq_false _).mp fun outside => other ⟨rfl, outside⟩
    | cons d before =>
        cases split
        exact guarded before behind rfl

theorem cutPort_guarded (guarded : Guarded inside text) : cutPort inside text = (text, none) := by
  induction text generalizing inside with
  | nil => rfl
  | cons c text ih =>
      obtain ⟨other, guarded⟩ := guarded_cons.mp guarded
      rw [cutPort, if_neg other, ih guarded]

theorem cutPort_at (guarded : Guarded inside host) (closed : bracketed inside host = false)
    (port : List Char) : cutPort inside (host ++ ':' :: port) = (host, some port) := by
  induction host generalizing inside with
  | nil => exact if_pos ⟨rfl, closed⟩
  | cons c host ih =>
      obtain ⟨other, guarded⟩ := guarded_cons.mp guarded
      rw [List.cons_append, cutPort, if_neg other, ih guarded closed]

theorem cutPort_cases (inside : Bool) (text : List Char) : Guarded inside text ∨
    ∃ host port, text = host ++ ':' :: port ∧ Guarded inside host ∧ bracketed inside host = false := by
  induction text generalizing inside with
  | nil => exact .inl fun before behind split => absurd split (by simp)
  | cons c text ih =>
      by_cases separates : c = ':' ∧ inside = false
      · obtain ⟨rfl, rfl⟩ := separates
        exact .inr ⟨[], text, rfl, fun before behind split => absurd split (by simp), rfl⟩
      · rcases ih (if c = '[' then true else if c = ']' then false else inside) with
          guarded | ⟨host, port, rfl, guarded, closed⟩
        · exact .inl (guarded_cons.mpr ⟨separates, guarded⟩)
        · exact .inr ⟨c :: host, port, rfl, guarded_cons.mpr ⟨separates, guarded⟩, closed⟩

end

/-! ## Parts -/

/-- The parts of the text of a web address, before anything in them is resolved. Both directions go
    through them: every text that is read has such parts, and reading a text goes by its parts. -/
structure Spelling where
  scheme : List Char
  slashes : List Char
  userinfo : Option (List Char)
  host : List Char
  /-- What stands behind the colon of the port. -/
  port : Option (List Char)
  /-- What begins with the path, the query or the fragment. -/
  tail : List Char

namespace Spelling

def hostPort (p : Spelling) : List Char :=
  match p.port with
  | none => p.host
  | some port => p.host ++ ':' :: port

def authority (p : Spelling) : List Char :=
  match p.userinfo with
  | none => p.hostPort
  | some userinfo => userinfo ++ '@' :: p.hostPort

def rest (p : Spelling) : List Char :=
  p.slashes ++ (p.authority ++ p.tail)

def text (p : Spelling) : List Char :=
  p.scheme ++ ':' :: p.rest

/-- No part goes on behind the mark that ends it. -/
structure IsCut (p : Spelling) : Prop where
  slashes : ∀ c ∈ p.slashes, isSlash c = true
  authority : FreeOf endsAuthority p.authority
  hostPort : FreeOf (· = '@') p.hostPort
  some_host : p.host ≠ []
  guarded : Guarded false p.host
  closed : p.port.isSome → bracketed false p.host = false
  tail : BeginsWith endsAuthority p.tail

def readPort (p : Spelling) (s : Scheme) : Except Fault (Option UInt16) :=
  match p.port with
  | none => .ok none
  | some text => parsePort s.defaultPort text

variable {p : Spelling}

theorem cutLast_authority (noAt : FreeOf (· = '@') p.hostPort) :
    Text.cutLast (· = '@') p.authority = (p.userinfo, p.hostPort) := by
  rw [authority]
  cases p.userinfo with
  | none => exact Text.cutLast_free noAt
  | some userinfo => exact Text.cutLast_at (c := '@') rfl noAt userinfo

theorem cutPort_hostPort (guarded : Guarded false p.host)
    (closed : p.port.isSome → bracketed false p.host = false) :
    cutPort false p.hostPort = (p.host, p.port) := by
  rw [hostPort]
  cases given : p.port with
  | none => exact cutPort_guarded guarded
  | some port => exact cutPort_at guarded (closed (given ▸ rfl)) port

theorem parseAuthority_eq (noAt : FreeOf (· = '@') p.hostPort) (guarded : Guarded false p.host)
    (closed : p.port.isSome → bracketed false p.host = false) (s : Scheme) :
    parseAuthority s p.authority =
      if p.host.isEmpty then .error .emptyHost
      else (Host.parse p.host).bind fun host => (p.readPort s).bind fun port =>
        .ok ⟨(parseUserinfo (p.userinfo.getD [])).1, (parseUserinfo (p.userinfo.getD [])).2, host, port⟩ := by
  simp only [parseAuthority, cutLast_authority noAt, cutPort_hostPort guarded closed, readPort]
  split
  · rfl
  · cases Host.parse p.host with
    | error fault => rfl
    | ok host =>
        cases p.port with
        | none => rfl
        | some text => cases parsePort s.defaultPort text <;> rfl

theorem IsCut.breakAt (cut : p.IsCut) :
    breakAt endsAuthority (p.rest.dropWhile isSlash) = (p.authority, p.tail) := by
  have some_char : p.authority ≠ [] := by
    have full : p.hostPort ≠ [] := by
      rw [Spelling.hostPort]
      cases p.port with
      | none => exact cut.some_host
      | some port => exact List.append_ne_nil_of_left_ne_nil cut.some_host _
    rw [Spelling.authority]
    cases p.userinfo with
    | none => exact full
    | some userinfo => exact List.append_ne_nil_of_right_ne_nil _ (List.cons_ne_nil _ _)
  have noSlash : BeginsWith (fun c => !isSlash c) (p.authority ++ p.tail) := by
    obtain ⟨c, cs, front⟩ := List.exists_cons_of_ne_nil some_char
    intro d first
    rw [front] at first
    cases first
    have plain := cut.authority c (front ▸ List.mem_cons_self)
    simp only [endsAuthority, Bool.or_eq_false_iff] at plain
    simp only [plain.1.1, Bool.not_false]
  have plain : ∀ c ∈ p.authority, (!endsAuthority c) = true := fun c member => by
    rw [cut.authority c member]
    rfl
  have ends : BeginsWith (fun c => !(!endsAuthority c)) p.tail := fun c first => by
    simpa using cut.tail c first
  rw [rest, Text.dropWhile_front cut.slashes noSlash, Url.breakAt, Text.takeWhile_front plain ends,
    Text.dropWhile_front plain ends]

theorem parseAddress_eq (cut : p.IsCut) (s : Scheme) : parseAddress s p.rest =
    (Host.parse p.host).bind fun host => (p.readPort s).bind fun port => .ok {
      scheme := s
      username := (parseUserinfo (p.userinfo.getD [])).1
      password := (parseUserinfo (p.userinfo.getD [])).2
      host
      port
      path := parsePath (Text.cut (· = '?') (Text.cut (· = '#') p.tail).1).1
      query := (Text.cut (· = '?') (Text.cut (· = '#') p.tail).1).2.map (percentEncode inQuerySet)
      fragment := (Text.cut (· = '#') p.tail).2.map (percentEncode inFragmentSet) } := by
  have full : p.host.isEmpty = false := List.isEmpty_eq_false_iff.mpr cut.some_host
  simp only [parseAddress, cut.breakAt, parseAuthority_eq cut.hostPort cut.guarded cut.closed s, full,
    Bool.false_eq_true, if_false]
  cases Host.parse p.host with
  | error fault => rfl
  | ok host => cases p.readPort s <;> rfl

/-- The host ends at the first colon that is not between brackets. -/
theorem exists_hostPort (scheme slashes : List Char) (userinfo : Option (List Char))
    (hostPort tail : List Char) :
    ∃ p : Spelling, p.scheme = scheme ∧ p.slashes = slashes ∧ p.userinfo = userinfo ∧ p.tail = tail ∧
      p.hostPort = hostPort ∧ Guarded false p.host ∧
        (p.port.isSome → bracketed false p.host = false) := by
  rcases cutPort_cases false hostPort with guarded | ⟨host, port, split, guarded, closed⟩
  · exact ⟨⟨scheme, slashes, userinfo, hostPort, none, tail⟩, rfl, rfl, rfl, rfl, rfl, guarded,
      fun some_port => absurd some_port Bool.false_ne_true⟩
  · exact ⟨⟨scheme, slashes, userinfo, host, some port, tail⟩, rfl, rfl, rfl, rfl, split.symm, guarded,
      fun _ => closed⟩

theorem exists_authority (scheme slashes authority tail : List Char) :
    ∃ p : Spelling, p.scheme = scheme ∧ p.slashes = slashes ∧ p.tail = tail ∧
      p.authority = authority ∧ FreeOf (· = '@') p.hostPort ∧ Guarded false p.host ∧
        (p.port.isSome → bracketed false p.host = false) := by
  rcases Text.cutLast_cases (· = '@') authority with free | ⟨userinfo, at_, behind, split, isAt, free⟩
  · obtain ⟨p, hasScheme, hasSlashes, noUser, hasTail, same, guarded, closed⟩ :=
      exists_hostPort scheme slashes none authority tail
    refine ⟨p, hasScheme, hasSlashes, hasTail, ?_, same ▸ free, guarded, closed⟩
    rw [Spelling.authority, noUser, same]
  · obtain ⟨p, hasScheme, hasSlashes, user, hasTail, same, guarded, closed⟩ :=
      exists_hostPort scheme slashes (some userinfo) behind tail
    refine ⟨p, hasScheme, hasSlashes, hasTail, ?_, same ▸ free, guarded, closed⟩
    rw [Spelling.authority, user, same, split, of_decide_eq_true isAt]

/-- Whatever is read as an address has parts. -/
theorem exists_rest {s : Scheme} {a : Address} {text : List Char} (scheme : List Char)
    (read : parseAddress s text = .ok a) : ∃ p : Spelling, p.scheme = scheme ∧ p.rest = text ∧ p.IsCut := by
  have slashes : ∀ c ∈ text.takeWhile isSlash, isSlash c = true :=
    List.all_eq_true.mp List.all_takeWhile
  have whole := List.takeWhile_append_dropWhile (p := isSlash) (l := text)
  simp only [parseAddress, Url.breakAt] at read
  generalize text.takeWhile isSlash = front at slashes whole
  generalize text.dropWhile isSlash = inner at read whole
  have plain : FreeOf endsAuthority (inner.takeWhile fun c => !endsAuthority c) := fun c member =>
    (Bool.not_eq_true' _).mp (List.all_eq_true.mp List.all_takeWhile c member)
  have ends : BeginsWith endsAuthority (inner.dropWhile fun c => !endsAuthority c) := fun c first => by
    simpa using Text.dropWhile_begins (fun c => !endsAuthority c) inner c first
  have split := List.takeWhile_append_dropWhile (p := fun c => !endsAuthority c) (l := inner)
  obtain ⟨p, hasScheme, hasSlashes, hasTail, same, noAt, guarded, closed⟩ := exists_authority scheme
    front (inner.takeWhile fun c => !endsAuthority c) (inner.dropWhile fun c => !endsAuthority c)
  rw [← same, parseAuthority_eq noAt guarded closed] at read
  have some_host : p.host ≠ [] := by
    intro empty
    rw [empty] at read
    cases read
  refine ⟨p, hasScheme, ?_, ?_⟩
  · rw [rest, hasSlashes, same, hasTail, split, whole]
  · exact
      { slashes := hasSlashes ▸ slashes
        authority := same ▸ plain
        hostPort := noAt
        some_host
        guarded
        closed
        tail := hasTail ▸ ends }

end Spelling

end WampClient.Url
