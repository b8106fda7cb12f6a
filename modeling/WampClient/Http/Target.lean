import WampClient.Http.Fault
import WampClient.Text.Split
import WampClient.Text.Utf8

/-! # Request targets

A request target in absolute form has a scheme, an authority, and a path with an optional query. A
fragment is not part of a target: it is left out when a text is read.
-/

namespace WampClient.Http

structure Target where
  scheme : List Char
  /-- The host and port, with a user name and password before them if there are any. -/
  authority : List Char
  resource : List Char
  deriving Repr, DecidableEq

namespace Target

def maxLength : Nat := 65534

def maxSchemeLength : Nat := 64

def isSchemeChar (c : Char) : Bool :=
  c.isAlphanum || c = '+' || c = '-' || c = '.'

def endsAuthority (c : Char) : Bool :=
  c = '/' || c = '?' || c = '#'

/-- The character may stand in an authority; a percent sign may too, but not everywhere. -/
def isAuthorityChar (c : Char) : Bool :=
  c.isAlphanum || "!$&'()*+,-.:;=@[]_~".toList.contains c

def isPathChar (c : Char) : Bool :=
  '!' ≤ c && !"#<>?\x60".toList.contains c

def isQueryChar (c : Char) : Bool :=
  '!' ≤ c && !"\"#<>".toList.contains c

/-- What was seen of an authority: the colons and the percent sign only where they still count, that
    is behind the last at sign or closing bracket. -/
structure Seen where
  colons : Nat
  opened : Bool
  closed : Bool
  percent : Bool
  atSign : Bool

def Seen.nothing : Seen := ⟨0, false, false, false, false⟩

def Seen.next (s : Seen) (c : Char) : Except Fault Seen :=
  if c = ':' then
    if 8 ≤ s.colons then .error .invalidAuthority
    else .ok { s with colons := s.colons + 1, atSign := false }
  else if c = '[' then
    if s.percent || s.opened then .error .invalidAuthority
    else .ok { s with opened := true, atSign := false }
  else if c = ']' then
    if !s.opened || s.closed then .error .invalidAuthority
    else .ok { s with colons := 0, closed := true, percent := false, atSign := false }
  else if c = '@' then .ok { s with colons := 0, percent := false, atSign := true }
  else if c = '%' then .ok { s with percent := true, atSign := false }
  else if isAuthorityChar c then .ok { s with atSign := false }
  else .error .invalidUriCharacter

/-- Whether an authority may end here: its brackets match, the host has at most one colon behind it
    and no percent sign in it, and something follows an at sign. -/
def Seen.mayEnd (s : Seen) : Bool :=
  s.opened == s.closed && s.colons ≤ 1 && !s.atSign && !s.percent

def checkAuthority (authority : List Char) : Except Fault Unit := do
  let seen ← authority.foldlM Seen.next Seen.nothing
  if !seen.mayEnd then throw .invalidAuthority
  if authority.isEmpty then throw .invalidFormat

def readQuery : List Char → Except Fault (List Char)
  | [] => .ok []
  | c :: cs =>
    if c = '#' then .ok []
    else if isQueryChar c then (readQuery cs).map (c :: ·)
    else .error .invalidUriCharacter

def readResource : List Char → Except Fault (List Char)
  | [] => .ok []
  | c :: cs =>
    if c = '?' then (readQuery cs).map (c :: ·)
    else if c = '#' then .ok []
    else if isPathChar c then (readResource cs).map (c :: ·)
    else .error .invalidUriCharacter

def parse (text : List Char) : Except Fault Target := do
  if maxLength < (Utf8.encode text).length then throw .uriTooLong
  match Text.cut (· = ':') text with
  | (scheme, some ('/' :: '/' :: rest)) =>
    if !scheme.all isSchemeChar then throw .invalidFormat
    if maxSchemeLength < scheme.length then throw .schemeTooLong
    let authority := rest.takeWhile (!endsAuthority ·)
    checkAuthority authority
    let resource ← readResource (rest.dropWhile (!endsAuthority ·))
    return ⟨scheme, authority, resource⟩
  | _ => throw .invalidFormat

def render (t : Target) : List Char :=
  t.scheme ++ ':' :: '/' :: '/' :: (t.authority ++ t.resource)

def host (t : Target) : List Char :=
  match Text.cut (· = '@') t.authority with
  | (_, some behind) => behind
  | (all, none) => all

end Target

end WampClient.Http
