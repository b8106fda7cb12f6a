import WampClient.Endpoint
import WampClient.Proofs.Url.Address

/-! # Endpoints and their texts

An endpoint is read again from its own text, so that it may be stored as text. Its port is the one
that is written, also where the text of the endpoint leaves it out, and a text that is no endpoint is
refused with the text itself.
-/

namespace WampClient

namespace Endpoint

open Url (Address Scheme Spelling)

variable {text : String} {e : Endpoint}

/-- The text is spelled in these parts, with the name of the scheme in whatever case. -/
structure Spells (text : String) (p : Spelling) (s : Scheme) : Prop where
  text : Url.strip text.toList = p.text
  scheme : p.scheme.map Char.toLower = s.name.toList
  cut : p.IsCut

theorem exists_spelling {a : Address} (read : Url.parse text.toList = .ok (.address a)) :
    ∃ p, Spells text p a.scheme ∧ Url.Host.parse p.host = .ok a.host ∧ p.readPort a.scheme = .ok a.port := by
  obtain ⟨scheme, _, s, split, lower, whole⟩ := Url.parse_address read
  obtain ⟨p, rfl, rfl, cut⟩ := Spelling.exists_rest scheme whole
  obtain ⟨rfl, host, port⟩ := Address.parseAddress_ok cut whole
  exact ⟨p, ⟨split, lower, cut⟩, host, port⟩

theorem scheme_name (e : Endpoint) : e.address.scheme.name = if e.isSecure then "wss" else "ws" := by
  rw [isSecure]
  rcases e.isSocket with ws | wss
  · rw [ws]
    rfl
  · rw [wss]
    rfl

theorem defaultPort_eq (e : Endpoint) :
    e.address.scheme.defaultPort.toNat = if e.isSecure then 443 else 80 := by
  rw [isSecure]
  rcases e.isSocket with ws | wss
  · rw [ws]
    rfl
  · rw [wss]
    rfl

theorem host_render_ne_nil {a : Address} (read : Url.parse text.toList = .ok (.address a)) :
    a.host.render ≠ [] := by
  obtain ⟨_, _, host, _⟩ := exists_spelling read
  exact (Url.Host.isSound_of_parse host).render_ne_nil

theorem parse_eq_ok_iff : parse text = .ok e ↔ Url.parse text.toList = .ok (.address e.address) := by
  constructor
  · intro read
    unfold parse at read
    split at read
    · cases read
    · cases read
    · split at read
      · split at read
        · cases read
        · rename_i address _ _
          cases read
          exact address
      · cases read
  · intro read
    have full : e.address.host.render.isEmpty = false :=
      List.isEmpty_eq_false_iff.mpr (host_render_ne_nil read)
    simp only [parse, read, dif_pos e.isSocket, full]
    rfl

theorem parse_refused {err : Error} (failed : parse text = .error err) :
    ∃ fault, err = .invalidEndpoint text fault := by
  unfold parse at failed
  split at failed
  · cases failed
    exact ⟨_, rfl⟩
  · cases failed
    exact ⟨_, rfl⟩
  · split at failed
    · split at failed
      · cases failed
        exact ⟨_, rfl⟩
      · cases failed
    · cases failed
      exact ⟨_, rfl⟩

/-- The scheme of a text is that of an endpoint, in whatever case. -/
def HasScheme (text : String) : Prop :=
  ∃ scheme rest, Url.strip text.toList = scheme ++ ':' :: rest ∧
    (scheme.map Char.toLower = "ws".toList ∨ scheme.map Char.toLower = "wss".toList)

theorem exists_parse_iff :
    (∃ e, parse text = .ok e) ↔ (∃ reading, Url.parse text.toList = .ok reading) ∧ HasScheme text := by
  constructor
  · rintro ⟨e, read⟩
    rw [parse_eq_ok_iff] at read
    obtain ⟨p, spelled, _⟩ := exists_spelling read
    refine ⟨⟨_, read⟩, p.scheme, p.rest, spelled.text, ?_⟩
    rw [spelled.scheme]
    exact e.isSocket.imp (fun ws => congrArg (fun s => s.name.toList) ws)
      (fun wss => congrArg (fun s => s.name.toList) wss)
  · rintro ⟨⟨reading, read⟩, scheme, rest, split, lower⟩
    obtain ⟨s, isSocket, named⟩ : ∃ s : Scheme, (s = .ws ∨ s = .wss) ∧
        scheme.map Char.toLower = s.name.toList :=
      lower.elim (fun ws => ⟨.ws, .inl rfl, ws⟩) (fun wss => ⟨.wss, .inr rfl, wss⟩)
    rw [Url.parse_scheme split named] at read
    cases whole : Url.parseAddress s rest with
    | error fault =>
        rw [whole] at read
        cases read
    | ok a =>
        obtain ⟨p, _, rfl, cut⟩ := Spelling.exists_rest [] whole
        obtain ⟨rfl, _, _⟩ := Address.parseAddress_ok cut whole
        refine ⟨⟨a, isSocket⟩, parse_eq_ok_iff.mpr ?_⟩
        rw [Url.parse_scheme split named, whole]
        rfl

/-- An endpoint is read from its text, if its host is the ASCII form of its host. -/
theorem parse_text (read : parse text = .ok e)
    (fixed : ∀ name, e.address.host = .domain name → Idna.toAscii? name = some name) :
    parse e.text = .ok e := by
  rw [parse_eq_ok_iff] at read ⊢
  obtain ⟨_, _, s, _, _, whole⟩ := Url.parse_address read
  rw [Endpoint.text, String.toList_ofList]
  exact Address.parse_render (Address.parseAddress_isNormal whole fixed)

theorem port_of_spelling (read : parse text = .ok e) {p : Spelling}
    (spelled : Spells text p e.address.scheme) :
    ∃ ds, (∀ d ∈ ds, d < 10) ∧ p.port.getD [] = ds.map Decimal.digitChar ∧
      e.port.toNat = if ds = [] then (if e.isSecure then 443 else 80) else Decimal.value ds := by
  rw [parse_eq_ok_iff, Url.parse_scheme spelled.text spelled.scheme] at read
  cases whole : Url.parseAddress e.address.scheme p.rest with
  | error fault =>
      rw [whole] at read
      cases read
  | ok a =>
      have same : a = e.address := by
        rw [whole] at read
        exact Url.Reading.address.inj (Except.ok.inj read)
      rw [same] at whole
      obtain ⟨_, _, port⟩ := Address.parseAddress_ok spelled.cut whole
      rw [← e.defaultPort_eq]
      exact (Spelling.readPort_sound port).2

/-- What is read from a text as an endpoint, and which texts are refused. The text of an endpoint is
    its normal form: read again, it gives the same endpoint. -/
structure NormalForm (text : String) : Prop where
  /-- The mapping of domain names to ASCII has to be idempotent at the name of the host, unless that
      is plain. -/
  reparsed (e : Endpoint) (read : parse text = .ok e)
    (idempotent : ∀ domain name, Idna.toAscii? domain = some name → e.address.host = .domain name →
      ¬ Idna.IsPlain name → Idna.toAscii? name = some name) : parse e.text = .ok e
  scheme (e : Endpoint) (read : parse text = .ok e) :
    e.address.scheme.name = if e.isSecure then "wss" else "ws"
  host (e : Endpoint) (read : parse text = .ok e) : e.host ≠ ""
  spelled (e : Endpoint) (read : parse text = .ok e) : ∃ p, Spells text p e.address.scheme
  port (e : Endpoint) (read : parse text = .ok e) (p : Spelling)
    (spelled : Spells text p e.address.scheme) :
    ∃ ds, (∀ d ∈ ds, d < 10) ∧ p.port.getD [] = ds.map Decimal.digitChar ∧
      e.port.toNat = if ds = [] then (if e.isSecure then 443 else 80) else Decimal.value ds
  accepted_iff : (∃ e, parse text = .ok e) ↔
    (∃ reading, Url.parse text.toList = .ok reading) ∧ HasScheme text
  refused (err : Error) (failed : parse text = .error err) : ∃ fault, err = .invalidEndpoint text fault

/-- The parts of an endpoint are shown for every way to spell the text, since the printed text
    leaves out a port that is the default one. That the text is read back goes through
    `Url.Address.IsNormal`, which all that is read has and which is all that reading back takes. -/
theorem normal_form (text : String) : NormalForm text where
  reparsed e read idempotent := by
    refine parse_text read fun name isDomain => ?_
    by_cases plain : Idna.IsPlain name
    · exact Idna.toAscii?_plain plain
    · obtain ⟨p, _, host, _⟩ := exists_spelling (parse_eq_ok_iff.mp read)
      obtain ⟨⟨domain, mapped⟩, _⟩ := Url.Host.parse_domain (isDomain ▸ host)
      exact idempotent domain name mapped isDomain plain
  scheme e _ := e.scheme_name
  host e read := by
    intro empty
    refine host_render_ne_nil (parse_eq_ok_iff.mp read) ?_
    rw [← String.toList_ofList (l := e.address.host.render)]
    exact congrArg String.toList empty
  spelled e read := by
    obtain ⟨p, spelled, _⟩ := exists_spelling (parse_eq_ok_iff.mp read)
    exact ⟨p, spelled⟩
  port _ read _ spelled := port_of_spelling read spelled
  accepted_iff := exists_parse_iff
  refused _ failed := parse_refused failed

def router : Endpoint where
  address :=
    { scheme := .ws
      username := []
      password := []
      host := .domain "router.local".toList
      port := none
      path := ["ws".toList]
      query := none
      fragment := none }
  isSocket := .inl rfl

theorem router_isPlain : Idna.IsPlain "router.local".toList where
  ascii := Text.forall_mem_of_all (by decide)
  lower := Text.forall_mem_of_all (by decide)
  sound := Text.forall_mem_of_all (by decide)
  unmarked := by decide

theorem router_isNormal : router.address.IsNormal where
  username := Text.freeOf_nil
  password := Text.freeOf_nil
  host :=
    ⟨⟨by decide, by decide, fun c member => ⟨router_isPlain.ascii c member, router_isPlain.sound c member⟩⟩,
      Idna.toAscii?_plain router_isPlain⟩
  port := by decide
  path := ⟨by decide, List.forall_mem_singleton.mpr
    { escaped := by decide, noSlash := by decide, notSingle := by decide, notDouble := by decide }⟩
  query := by rintro text ⟨⟩
  fragment := by rintro text ⟨⟩

theorem normal_form_of_router :
    parse "ws://router.local/ws" = .ok router ∧ parse router.text = .ok router ∧ router.port = 80 := by
  have text : router.text = "ws://router.local/ws" := by decide
  have read : parse "ws://router.local/ws" = .ok router := by
    rw [← text, parse_eq_ok_iff, Endpoint.text, String.toList_ofList]
    exact Address.parse_render router_isNormal
  refine ⟨read, (normal_form _).reparsed router read ?_, rfl⟩
  intro domain name _ isName _
  cases isName
  exact Idna.toAscii?_plain router_isPlain

/-- A port that is written counts, though the text of the endpoint leaves the default out. -/
example : (parse "WSS://u@[0:0::1]:0443/a/../b?c").map (fun e => (e.text, e.port)) =
    .ok ("wss://u@[::1]/b?c", 443) := by
  cbv

end Endpoint

end WampClient
