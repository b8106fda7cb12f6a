import WampClient.Error
import WampClient.Url.Parser

/-! # Endpoints

An endpoint is the address of a WebSocket server: a web address of the scheme `ws` or `wss`.
-/

namespace WampClient

structure Endpoint where
  address : Url.Address
  isSocket : address.scheme = .ws ∨ address.scheme = .wss
  deriving DecidableEq

namespace Endpoint

def parse (text : String) : Except Error Endpoint :=
  match Url.parse text.toList with
  | .error fault => .error (.invalidEndpoint text (.url fault))
  | .ok (.other scheme) => .error (.invalidEndpoint text (.unsupportedScheme scheme))
  | .ok (.address a) =>
    if h : a.scheme = .ws ∨ a.scheme = .wss then
      if a.host.render.isEmpty then .error (.invalidEndpoint text .missingHost) else .ok ⟨a, h⟩
    else .error (.invalidEndpoint text (.unsupportedScheme a.scheme.name))

def isSecure (e : Endpoint) : Bool :=
  e.address.scheme = .wss

def host (e : Endpoint) : String :=
  String.ofList e.address.host.render

/-- The port, be it given or the default of the scheme. -/
def port (e : Endpoint) : UInt16 :=
  e.address.port.getD e.address.scheme.defaultPort

def path (e : Endpoint) : String :=
  String.ofList e.address.renderPath

def text (e : Endpoint) : String :=
  String.ofList e.address.render

end Endpoint

end WampClient
