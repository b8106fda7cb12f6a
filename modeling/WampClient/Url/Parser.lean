import WampClient.Url.Basic

/-! # Reading URLs

A text is cut into its parts first and each part is brought into its normal form on its own. Of a
URL that is no web address only the scheme is kept, but its host has to be sound all the same.
-/

namespace WampClient.Url

inductive Reading where
  | address (a : Address)
  | other (scheme : String)
  deriving DecidableEq, Repr

/-- Controls and spaces, which do not count at the ends of a text. -/
def isEdge (c : Char) : Bool :=
  c.toNat ≤ 0x20

/-- Tabs and line ends, which do not count anywhere. -/
def isDropped (c : Char) : Bool :=
  c = '\t' || c = '\n' || c = '\r'

def strip (text : List Char) : List Char :=
  let inner := (text.dropWhile isEdge).reverse.dropWhile isEdge |>.reverse
  inner.filter fun c => !isDropped c

def isLetter (c : Char) : Bool :=
  ('a' ≤ c && c ≤ 'z') || ('A' ≤ c && c ≤ 'Z')

def isSchemeChar (c : Char) : Bool :=
  isLetter c || ('0' ≤ c && c ≤ '9') || c = '+' || c = '-' || c = '.'

def cutScheme (text : List Char) : Option (List Char × List Char) :=
  match text with
  | c :: _ =>
    if isLetter c then
      match Text.cut (· = ':') text with
      | (scheme, some rest) =>
        if scheme.all isSchemeChar then some (scheme.map Char.toLower, rest) else none
      | (_, none) => none
    else none
  | [] => none

def isSlash (c : Char) : Bool :=
  c = '/' || c = '\\'

def endsAuthority (c : Char) : Bool :=
  isSlash c || c = '?' || c = '#'

def endsOpaqueAuthority (c : Char) : Bool :=
  c = '/' || c = '?' || c = '#'

/-! ## Authority -/

/-- What stands before the colon of the port, and what stands behind it if there is one. A colon
    between brackets is not that of the port. -/
def cutPort : (inBrackets : Bool) → List Char → List Char × Option (List Char)
  | _, [] => ([], none)
  | inBrackets, c :: rest =>
    if c = ':' ∧ inBrackets = false then ([], some rest)
    else
      let (host, port) := cutPort (if c = '[' then true else if c = ']' then false else inBrackets)
        rest
      (c :: host, port)

def portNumber? (text : List Char) : Option Nat :=
  text.foldl
    (fun n? c => do
      let n ← n?
      if '0' ≤ c ∧ c ≤ '9' then
        let m := n * 10 + (c.toNat - 0x30)
        if m < 0x1_0000 then some m else none
      else none)
    (some 0)

/-- Reads what stands behind the colon of the port. No digits stand for the default port. -/
def parsePort (defaultPort : UInt16) (text : List Char) : Except Fault (Option UInt16) :=
  match portNumber? text with
  | none => .error .invalidPort
  | some n =>
    if text.isEmpty ∨ UInt16.ofNat n = defaultPort then .ok none else .ok (some (UInt16.ofNat n))

def parseUserinfo (text : List Char) : List Char × List Char :=
  let (username, password) := Text.cut (· = ':') text
  (percentEncode inUserinfoSet username, percentEncode inUserinfoSet (password.getD []))

structure Authority where
  username : List Char
  password : List Char
  host : Host
  port : Option UInt16

def parseAuthority (scheme : Scheme) (text : List Char) : Except Fault Authority := do
  let (userinfo, rest) := Text.cutLast (· = '@') text
  let (username, password) := parseUserinfo (userinfo.getD [])
  let (hostText, portText) := cutPort false rest
  if hostText.isEmpty then throw .emptyHost
  let host ← Host.parse hostText
  let port ← match portText with
    | none => pure none
    | some t => parsePort scheme.defaultPort t
  return ⟨username, password, host, port⟩

/-! ## Path -/

def isSingleDot (segment : List Char) : Bool :=
  [".", "%2e"].contains (String.ofList (segment.map Char.toLower))

def isDoubleDot (segment : List Char) : Bool :=
  ["..", ".%2e", "%2e.", "%2e%2e"].contains (String.ofList (segment.map Char.toLower))

/-- A segment that looks like the letter of a drive. Nothing goes up from it. -/
def isDrive (segment : List Char) : Bool :=
  match segment with
  | [c, d] => isLetter c && (d = ':' || d = '|')
  | _ => false

/-- Goes up from the innermost of the segments above, which are given innermost first. -/
def goUp : List (List Char) → List (List Char)
  | [] => []
  | segment :: above => if isDrive segment then segment :: above else above

/-- Resolves dot segments; `above` holds the segments so far, last one first. -/
def resolveDots (above : List (List Char)) : List (List Char) → List (List Char)
  | [] => above.reverse
  | [last] =>
    if isDoubleDot last then (([] :: goUp above)).reverse
    else if isSingleDot last then ([] :: above).reverse
    else (last :: above).reverse
  | segment :: rest =>
    if isDoubleDot segment then resolveDots (goUp above) rest
    else if isSingleDot segment then resolveDots above rest
    else resolveDots (segment :: above) rest

def parsePath (text : List Char) : List (List Char) :=
  let inner := match text with
    | c :: rest => if isSlash c then rest else c :: rest
    | [] => []
  resolveDots [] ((Text.splitBy isSlash inner).map (percentEncode inPathSet))

/-! ## Whole texts -/

/-- What stands before the first member that satisfies `isEnd`, and the rest from that member on. -/
def breakAt (isEnd : Char → Bool) (text : List Char) : List Char × List Char :=
  (text.takeWhile fun c => !isEnd c, text.dropWhile fun c => !isEnd c)

/-- Reads a web address whose scheme was read. Any number of slashes leads to the authority. -/
def parseAddress (scheme : Scheme) (text : List Char) : Except Fault Address := do
  let (authorityText, rest) := breakAt endsAuthority (text.dropWhile isSlash)
  let authority ← parseAuthority scheme authorityText
  let (target, fragment) := Text.cut (· = '#') rest
  let (path, query) := Text.cut (· = '?') target
  return {
    scheme
    username := authority.username
    password := authority.password
    host := authority.host
    port := authority.port
    path := parsePath path
    query := query.map (percentEncode inQuerySet)
    fragment := fragment.map (percentEncode inFragmentSet) }

def isForbiddenHostChar (c : Char) : Bool :=
  ['\x00', '\t', '\n', '\r', ' ', '#', '/', ':', '<', '>', '?', '@', '[', '\\', ']', '^',
    '|'].contains c

def checkOpaqueHost (text : List Char) : Except Fault Unit :=
  match text with
  | '[' :: rest => (Host.parseBracketed rest).map fun _ => ()
  | _ => if text.any isForbiddenHostChar then .error .invalidDomainCharacter else .ok ()

/-- The port of a URL that is no web address is sound. A backslash ends it. -/
def checkOpaquePort (text : List Char) : Except Fault Unit :=
  match portNumber? (text.takeWhile (· ≠ '\\')) with
  | some _ => .ok ()
  | none => .error .invalidPort

/-- The authority of a URL that is no web address is sound. The host may be left out if nothing
    stands around it; `atEnd` tells that the text ends with the authority. -/
def checkOpaqueAuthority (text : List Char) (atEnd : Bool) : Except Fault Unit := do
  let (userinfo, rest) := Text.cutLast (· = '@') text
  if userinfo = some [] ∧ rest.isEmpty ∧ !atEnd then throw .emptyHost
  let (hostText, portText) := cutPort false rest
  checkOpaqueHost hostText
  if hostText.isEmpty ∧ portText.isSome then throw .emptyHost
  if let some t := portText then checkOpaquePort t
  if hostText.isEmpty ∧ parseUserinfo (userinfo.getD []) ≠ ([], []) then throw .emptyHost

/-- The host of a file URL is sound. The letter of a drive is no host. -/
def checkFileHost (text : List Char) : Except Fault Unit :=
  match text with
  | a :: b :: rest =>
    if isSlash a && isSlash b then
      let host := (breakAt endsAuthority rest).1
      if host.isEmpty || isDrive host then .ok () else (Host.parse host).map fun _ => ()
    else .ok ()
  | _ => .ok ()

def parse (text : List Char) : Except Fault Reading :=
  match cutScheme (strip text) with
  | none => .error .relativeWithoutBase
  | some (name, rest) =>
    let scheme := String.ofList name
    match Scheme.ofName? scheme with
    | some s => (parseAddress s rest).map .address
    | none =>
      let check := if scheme = "file" then checkFileHost rest
        else
          match rest with
          | '/' :: '/' :: rest =>
            let (authority, tail) := breakAt endsOpaqueAuthority rest
            checkOpaqueAuthority authority tail.isEmpty
          | _ => .ok ()
      check.map fun () => .other scheme

end WampClient.Url
