import WampClient.Handshake
import WampClient.Proofs.Endpoint.NormalForm
import WampClient.Proofs.Http.Target

/-! # The request of a handshake

Whether there is a request for a handshake, what it asks for, and which headers it has. Neither the
endpoint nor the subprotocol has a say in any header but its own.
-/

namespace WampClient

theorem Endpoint.isEscaped_of_parse {text : String} {e : Endpoint} (read : Endpoint.parse text = .ok e) :
    e.address.IsEscaped := by
  obtain ⟨_, _, s, _, _, whole⟩ := Url.parse_address (Endpoint.parse_eq_ok_iff.mp read)
  exact Url.Address.parseAddress_isEscaped whole

namespace Handshake

open Http (Request Header isHeaderByte)
open Url (IsVisible)

variable {h other : Handshake} {nonce : Nonce} {r r' : Request}

/-- The text of the endpoint is that of a request target with a host. -/
def HasTarget (h : Handshake) : Prop :=
  ∃ target, Http.Target.parse h.endpoint.text.toList = .ok target ∧ target.host ≠ []

/-- The subprotocol holds tabs and what is no control, and nothing else. -/
def HasToken (h : Handshake) : Prop :=
  ∀ b ∈ Bytes.ofString h.subprotocol, b = 0x09 ∨ 0x20 ≤ b ∧ b ≠ 0x7F

theorem hasToken_iff : h.HasToken ↔ (Bytes.ofString h.subprotocol).all isHeaderByte = true := by
  simp only [HasToken, isHeaderByte, List.all_eq_true, Bool.or_eq_true, Bool.and_eq_true, decide_eq_true_eq]

/-- The headers of a request that depend neither on the endpoint nor on the subprotocol. -/
def fixedHeaders (nonce : Nonce) : List Header :=
  [⟨"connection", Bytes.ofString "Upgrade"⟩, ⟨"upgrade", Bytes.ofString "websocket"⟩,
    ⟨"sec-websocket-version", Bytes.ofString "13"⟩, ⟨"sec-websocket-key", Utf8.encode nonce.key⟩]

def headersOf (nonce : Nonce) (host token : Bytes) : List Header :=
  ⟨"host", host⟩ :: (fixedHeaders nonce ++ [⟨protocolHeader, token⟩])

/-! ## Whether there is a request -/

theorem request_refused {fault : Http.Fault}
    (refused : Http.Target.parse h.endpoint.text.toList = .error fault) :
    h.request nonce = .error (.webSocket (.format fault)) := by
  simp only [request, refused]

section targeted

variable {target : Http.Target} (found : Http.Target.parse h.endpoint.text.toList = .ok target)
  (some_host : target.host ≠ [])
include found some_host

theorem request_unspoken (unspoken : ¬ h.HasToken) :
    h.request nonce = .error (.config (.subprotocol h.subprotocol)) := by
  rw [hasToken_iff] at unspoken
  simp only [request, found, List.isEmpty_eq_false_iff.mpr some_host, Bool.false_eq_true, if_false,
    if_neg unspoken]

theorem request_made (token : h.HasToken) : h.request nonce =
    .ok ⟨"GET", target, headersOf nonce (Utf8.encode target.host) (Bytes.ofString h.subprotocol)⟩ := by
  rw [hasToken_iff] at token
  simp only [request, found, List.isEmpty_eq_false_iff.mpr some_host, Bool.false_eq_true, if_false,
    if_pos token]
  rfl

end targeted

theorem request_sound (made : h.request nonce = .ok r) :
    ∃ target, Http.Target.parse h.endpoint.text.toList = .ok target ∧ target.host ≠ [] ∧ h.HasToken ∧
      r = ⟨"GET", target, headersOf nonce (Utf8.encode target.host) (Bytes.ofString h.subprotocol)⟩ := by
  cases found : Http.Target.parse h.endpoint.text.toList with
  | error fault =>
      rw [request_refused found] at made
      cases made
  | ok target =>
      by_cases empty : target.host = []
      · simp only [request, found, empty] at made
        cases made
      · by_cases token : h.HasToken
        · rw [request_made found empty token] at made
          cases made
          exact ⟨target, rfl, empty, token, rfl⟩
        · rw [request_unspoken found empty token] at made
          cases made

/-! ## Endpoints as targets -/

section escaped

variable (escaped : h.endpoint.address.IsEscaped)
include escaped

/-- The text of the endpoint is as good as a target, unless it is too long or its host is unusable. -/
theorem parse_endpoint : Http.Target.parse h.endpoint.text.toList =
    if Http.Target.maxLength < (Bytes.ofString h.endpoint.text).length then .error .uriTooLong
    else if Text.FreeOf Http.Target.isUnusable h.endpoint.host.toList then
      .ok (Http.Target.ofAddress h.endpoint.address)
    else .error .invalidUriCharacter := by
  rw [Bytes.ofString, Endpoint.text, Endpoint.host, String.toList_ofList, String.toList_ofList]
  exact Http.Target.parse_render escaped

theorem host_ne_nil : (Http.Target.ofAddress h.endpoint.address).host ≠ [] := by
  rw [Http.Target.host_ofAddress escaped]
  exact List.append_ne_nil_of_left_ne_nil escaped.host.render_ne_nil _

/-- Nothing but a host can keep the endpoint from being a target, unless it is too long. -/
theorem hasTarget_iff : h.HasTarget ↔
    (Bytes.ofString h.endpoint.text).length ≤ Http.Target.maxLength ∧
      ∀ c ∈ h.endpoint.host.toList, c ∉ ['"', '\x60', '\x7b', '\x7d'] := by
  have usable : Text.FreeOf Http.Target.isUnusable h.endpoint.host.toList ↔
      ∀ c ∈ h.endpoint.host.toList, c ∉ ['"', '\x60', '\x7b', '\x7d'] :=
    forall₂_congr fun c _ => by rw [Http.Target.isUnusable, ← Bool.not_eq_true, List.contains_iff_mem]
  rw [HasTarget, parse_endpoint escaped, ← usable, ← Nat.not_lt]
  split
  · rename_i long
    simp [long]
  · split
    · rename_i short free
      exact ⟨fun _ => ⟨short, free⟩, fun _ => ⟨_, rfl, host_ne_nil escaped⟩⟩
    · rename_i unusable
      simp [unusable]

theorem target_eq {target : Http.Target} (found : Http.Target.parse h.endpoint.text.toList = .ok target) :
    target = Http.Target.ofAddress h.endpoint.address := by
  rw [parse_endpoint escaped] at found
  split at found
  · cases found
  · split at found
    · exact (Except.ok.inj found).symm
    · cases found

theorem untargeted (refused : ¬ h.HasTarget) : ∃ fault,
    Http.Target.parse h.endpoint.text.toList = .error fault := by
  cases found : Http.Target.parse h.endpoint.text.toList with
  | error fault => exact ⟨fault, rfl⟩
  | ok target =>
      have some_host := target_eq escaped found ▸ host_ne_nil escaped
      exact absurd ⟨target, found, some_host⟩ refused

theorem target_visible : ∀ c ∈ (Http.Target.ofAddress h.endpoint.address).render, IsVisible c := by
  rw [Http.Target.render_ofAddress]
  exact fun c member => Url.Address.render_visible escaped c (List.mem_append_left _ member)

theorem host_visible : ∀ c ∈ (Http.Target.ofAddress h.endpoint.address).host, IsVisible c := by
  rw [Http.Target.host_ofAddress escaped]
  intro c member
  refine Url.Address.render_visible escaped c ?_
  rw [Http.Target.split_render]
  simp [member]

end escaped

/-! ## Headers -/

theorem isHeaderByte_encode {text : List Char} (visible : ∀ c ∈ text, IsVisible c) :
    ∀ b ∈ Utf8.encode text, isHeaderByte b = true := by
  rw [Utf8.encode_ascii fun c member => Http.Target.ascii_of_visible (visible c member)]
  intro b member
  obtain ⟨c, inText, rfl⟩ := List.mem_map.mp member
  exact Http.Target.of_ascii (P := fun c => IsVisible c → isHeaderByte (UInt8.ofNat c.toNat) = true)
    (by decide) (Http.Target.ascii_of_visible (visible c inText)) (visible c inText)

theorem unbroken_of_isHeaderByte {b : UInt8} (valid : isHeaderByte b = true) : b ∉ [0x00, 0x0A, 0x0D] := by
  intro member
  simp only [List.mem_cons, List.not_mem_nil, or_false] at member
  rcases member with rfl | rfl | rfl <;> cases valid

theorem fixedHeaders_valid (nonce : Nonce) :
    ∀ header ∈ fixedHeaders nonce, ∀ b ∈ header.value, isHeaderByte b = true := by
  have key : ∀ b ∈ Utf8.encode nonce.key, isHeaderByte b = true := by
    have digits : ∀ c ∈ '=' :: Base64.alphabet, IsVisible c := Text.forall_mem_of_all (by decide)
    exact isHeaderByte_encode fun c member => digits c (Base64.mem_render nonce.bytes c member)
  simp only [fixedHeaders, List.forall_mem_cons]
  exact ⟨Text.forall_mem_of_all (by decide), Text.forall_mem_of_all (by decide),
    Text.forall_mem_of_all (by decide), key, List.forall_mem_nil _⟩

/-- The values of a header come from the host, from the fixed headers or from the subprotocol. -/
theorem values_headersOf (target : Http.Target) (host token : Bytes) (name : String) :
    Request.values ⟨"GET", target, headersOf nonce host token⟩ name =
      (if "host" = name then [host] else []) ++
        (((fixedHeaders nonce).filter (·.name = name)).map Header.value ++
          if protocolHeader = name then [token] else []) := by
  have last : (([⟨protocolHeader, token⟩] : List Header).filter (·.name = name)).map Header.value =
      if protocolHeader = name then [token] else [] := by
    by_cases same : protocolHeader = name <;> simp [same]
  rw [Request.values, headersOf, ← last, ← List.map_append, ← List.filter_append]
  by_cases same : "host" = name <;> simp [same]

/-- What a request asks for, and what stands in its headers. Each header is there once, under its
    exact name; neither the endpoint nor the subprotocol can add a header or change another one. -/
structure IsUpgrade (h : Handshake) (nonce : Nonce) (r : Request) : Prop where
  method : r.method = "GET"
  /-- The target is the text of the endpoint without its fragment. -/
  target : (Text.cut (· = '#') h.endpoint.text.toList).1 = r.target.render
  visible : ∀ c ∈ r.target.render, IsVisible c
  names : r.headers.map Header.name = ["host", "connection", "upgrade", "sec-websocket-version",
    "sec-websocket-key", "sec-websocket-protocol"]
  host : r.values "host" = [Utf8.encode h.endpoint.address.renderHostPort]
  connection : r.values "connection" = [Bytes.ofString "Upgrade"]
  upgrade : r.values "upgrade" = [Bytes.ofString "websocket"]
  version : r.values "sec-websocket-version" = [Bytes.ofString "13"]
  key : r.values "sec-websocket-key" = [Utf8.encode nonce.key]
  protocol : r.values "sec-websocket-protocol" = [Bytes.ofString h.subprotocol]
  /-- No header goes on behind the line that it stands on. -/
  unbroken : ∀ header ∈ r.headers, ∀ b ∈ header.value, isHeaderByte b = true ∧ b ∉ [0x00, 0x0A, 0x0D]
  /-- A header is the same in all requests with this nonce, but for the host of another endpoint and
      for another subprotocol. -/
  unaltered : ∀ other r', Handshake.request other nonce = .ok r' → ∀ name,
    (name = "host" → other.endpoint = h.endpoint) →
      (name = "sec-websocket-protocol" → other.subprotocol = h.subprotocol) →
        r'.values name = r.values name

theorem isUpgrade_of_made (escaped : h.endpoint.address.IsEscaped) (made : h.request nonce = .ok r) :
    IsUpgrade h nonce r := by
  obtain ⟨target, found, _, token, rfl⟩ := request_sound made
  have isTarget := target_eq escaped found
  subst isTarget
  have host := Http.Target.host_ofAddress escaped
  constructor
  case method => rfl
  case target =>
    rw [Http.Target.render_ofAddress, Endpoint.text, String.toList_ofList, Url.Address.cut_render escaped]
  case visible => exact target_visible escaped
  case names => rfl
  case host => rw [values_headersOf, host]; rfl
  case connection => rw [values_headersOf]; rfl
  case upgrade => rw [values_headersOf]; rfl
  case version => rw [values_headersOf]; rfl
  case key => rw [values_headersOf]; rfl
  case protocol => rw [values_headersOf]; rfl
  case unbroken =>
    have valid : ∀ header ∈ headersOf nonce (Utf8.encode (Http.Target.ofAddress h.endpoint.address).host)
        (Bytes.ofString h.subprotocol), ∀ b ∈ header.value, isHeaderByte b = true := by
      refine List.forall_mem_cons.mpr ⟨isHeaderByte_encode (host_visible escaped), ?_⟩
      exact List.forall_mem_append.mpr ⟨fixedHeaders_valid nonce,
        List.forall_mem_singleton.mpr (List.all_eq_true.mp (hasToken_iff.mp token))⟩
    exact fun header member b inValue =>
      ⟨valid header member b inValue, unbroken_of_isHeaderByte (valid header member b inValue)⟩
  case unaltered =>
    intro other r' made' name sameEndpoint sameToken
    obtain ⟨target', found', _, _, rfl⟩ := request_sound made'
    have host : (if "host" = name then [Utf8.encode target'.host] else []) =
        if "host" = name then [Utf8.encode (Http.Target.ofAddress h.endpoint.address).host] else [] := by
      split
      · rename_i isHost
        rw [sameEndpoint isHost.symm, found] at found'
        rw [Except.ok.inj found']
      · rfl
    have token : (if protocolHeader = name then [Bytes.ofString other.subprotocol] else []) =
        if protocolHeader = name then [Bytes.ofString h.subprotocol] else [] := by
      split
      · rename_i isProtocol
        rw [sameToken isProtocol.symm]
      · rfl
    rw [values_headersOf, values_headersOf, host, token]

/-- Whether a handshake has a request, why not, and what the request is. The two conditions are
    looked at one after the other, so the second one is reported only where the first one holds. -/
structure UpgradeRequest (h : Handshake) (nonce : Nonce) : Prop where
  accepted_iff : (∃ r, h.request nonce = .ok r) ↔ h.HasTarget ∧ h.HasToken
  /-- A text that is too long, or four characters in the name of a host, and nothing else, keep an
      endpoint from being a target. -/
  targeted_iff : h.HasTarget ↔ (Bytes.ofString h.endpoint.text).length ≤ Http.Target.maxLength ∧
    ∀ c ∈ h.endpoint.host.toList, c ∉ ['"', '\x60', '\x7b', '\x7d']
  /-- What is wrong with the target is reported, whatever the subprotocol is. -/
  untargeted : ¬ h.HasTarget → ∃ fault, Http.Target.parse h.endpoint.text.toList = .error fault ∧
    h.request nonce = .error (.webSocket (.format fault))
  unspoken : h.HasTarget → ¬ h.HasToken →
    h.request nonce = .error (.config (.subprotocol h.subprotocol))
  made : ∀ r, h.request nonce = .ok r → IsUpgrade h nonce r

/-- What the request for an endpoint is that was read from a text. That the endpoint was read is
    what keeps line ends and control characters out of the target and the host; the subprotocol is
    checked by the request itself. -/
theorem upgrade_request {text : String} (read : Endpoint.parse text = .ok h.endpoint) (nonce : Nonce) :
    UpgradeRequest h nonce := by
  have escaped := Endpoint.isEscaped_of_parse read
  constructor
  case accepted_iff =>
    constructor
    · rintro ⟨r, made⟩
      obtain ⟨target, found, some_host, token, _⟩ := request_sound made
      exact ⟨⟨target, found, some_host⟩, token⟩
    · rintro ⟨⟨target, found, some_host⟩, token⟩
      exact ⟨_, request_made found some_host token⟩
  case targeted_iff => exact hasTarget_iff escaped
  case untargeted =>
    intro refused
    obtain ⟨fault, failed⟩ := untargeted escaped refused
    exact ⟨fault, failed, request_refused failed⟩
  case unspoken =>
    rintro ⟨target, found, some_host⟩ unspoken
    exact request_unspoken found some_host unspoken
  case made => exact fun r made => isUpgrade_of_made escaped made

/-- A handshake with a router that asks for a user and a password, at an address with a query and a
    fragment. -/
def guarded : Handshake where
  endpoint :=
    { address :=
        { scheme := .wss
          username := "u".toList
          password := "p".toList
          host := .domain "router.local".toList
          port := none
          path := ["a".toList]
          query := some "b".toList
          fragment := some "c".toList }
      isSocket := .inr rfl }
  subprotocol := "wamp.2.json"
  options := .default

theorem guarded_isNormal : guarded.endpoint.address.IsNormal where
  username := by decide
  password := by decide
  host := Endpoint.router_isNormal.host
  port := by decide
  path := ⟨by decide, List.forall_mem_singleton.mpr
    { escaped := by decide, noSlash := by decide, notSingle := by decide, notDouble := by decide }⟩
  query := by
    rintro text ⟨⟩
    decide
  fragment := by
    rintro text ⟨⟩
    decide

theorem upgrade_request_of_guarded : ∃ (nonce : Nonce) (r : Request),
    Endpoint.parse "wss://u:p@router.local/a?b#c" = .ok guarded.endpoint ∧ guarded.request nonce = .ok r ∧
    r.target.render = "wss://u:p@router.local/a?b".toList ∧
    r.values "host" = [Bytes.ofString "router.local"] ∧ UpgradeRequest guarded nonce := by
  have text : guarded.endpoint.text = "wss://u:p@router.local/a?b#c" := by decide
  have read : Endpoint.parse "wss://u:p@router.local/a?b#c" = .ok guarded.endpoint := by
    rw [← text, Endpoint.parse_eq_ok_iff, Endpoint.text, String.toList_ofList]
    exact Url.Address.parse_render guarded_isNormal
  have contract := upgrade_request read ⟨List.replicate 16 0, rfl⟩
  have short : (Bytes.ofString guarded.endpoint.text).length ≤ Http.Target.maxLength := by
    rw [text]
    decide
  have allowed : ∀ c ∈ guarded.endpoint.host.toList, c ∉ ['"', '\x60', '\x7b', '\x7d'] :=
    Text.forall_mem_of_all (by decide)
  have target : guarded.HasTarget := contract.targeted_iff.mpr ⟨short, allowed⟩
  have token : guarded.HasToken := hasToken_iff.mpr (by decide)
  obtain ⟨r, made⟩ := contract.accepted_iff.mpr ⟨target, token⟩
  have upgrade := contract.made r made
  have rendered := upgrade.target
  rw [text] at rendered
  exact ⟨_, r, read, made, rendered.symm.trans (by decide), upgrade.host.trans (by decide), contract⟩

end Handshake

end WampClient
