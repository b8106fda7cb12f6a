import WampClient.Endpoint
import WampClient.Http.Request
import WampClient.Options.Basic
import WampClient.Text.Base64

/-! # The opening handshake

A client opens a connection with a request to upgrade it. The request carries a random key and the
subprotocol that the client speaks.
-/

namespace WampClient

/-- The sixteen random bytes behind the key of a request. -/
structure Nonce where
  bytes : Bytes
  length_eq : bytes.length = 16

def Nonce.key (n : Nonce) : List Char :=
  Base64.render n.bytes

structure Handshake where
  endpoint : Endpoint
  subprotocol : String
  options : Options

namespace Handshake

def protocolHeader : String := "sec-websocket-protocol"

def baseRequest (target : Http.Target) (nonce : Nonce) : Http.Request where
  method := "GET"
  target := target
  headers := [⟨"host", Utf8.encode target.host⟩, ⟨"connection", Bytes.ofString "Upgrade"⟩,
    ⟨"upgrade", Bytes.ofString "websocket"⟩, ⟨"sec-websocket-version", Bytes.ofString "13"⟩,
    ⟨"sec-websocket-key", Utf8.encode nonce.key⟩]

/-- The request that opens a connection. The endpoint is looked at before the subprotocol: an
    address that is no request target is reported even where the subprotocol is no header value
    either. -/
def request (h : Handshake) (nonce : Nonce) : Except Error Http.Request :=
  match Http.Target.parse h.endpoint.text.toList with
  | .error fault => .error (.webSocket (.format fault))
  | .ok target =>
    if target.host.isEmpty then .error (.webSocket (.address .emptyHost))
    else
      let token := Bytes.ofString h.subprotocol
      if token.all Http.isHeaderByte then
        let base := baseRequest target nonce
        .ok { base with headers := base.headers ++ [⟨protocolHeader, token⟩] }
      else .error (.config (.subprotocol h.subprotocol))

end Handshake

end WampClient
