import WampClient.Http.Target

/-! # Requests

A request has a method, a target, and headers in the order in which they are written. All requests
are made in one version of the protocol.
-/

namespace WampClient.Http

structure Header where
  name : String
  value : Bytes
  deriving Repr, DecidableEq

/-- The byte may stand in the value of a header: it is a tab or no control character. -/
def isHeaderByte (b : UInt8) : Bool :=
  b = 0x09 || (0x20 ≤ b && b ≠ 0x7F)

structure Request where
  method : String
  target : Target
  headers : List Header
  deriving Repr, DecidableEq

namespace Request

def version : String := "HTTP/1.1"

def values (r : Request) (name : String) : List Bytes :=
  (r.headers.filter (·.name = name)).map Header.value

end Request

end WampClient.Http
