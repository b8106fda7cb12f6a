import WampClient.Transport.Basic

/-! # Building transports

What a transport is to be made of is collected first and checked when it is built. Only the
endpoint must be given.
-/

namespace WampClient

structure Builder where
  endpoint : Option String
  serializer : Option Serializer
  options : Options
  connector : Option Connector
  /-- A runtime for the tasks of the transport was given. -/
  hasRuntime : Bool

namespace Builder

def empty : Builder := ⟨none, none, .default, none, false⟩

/-- The connector of a transport. Only a chosen one opens encrypted connections. -/
def chooseConnector (b : Builder) (endpoint : Endpoint) : Except Error Connector :=
  match b.connector with
  | some c => .ok c
  | none => if endpoint.isSecure then .error (.config .noTls) else .ok .network

/-- The first thing that is missing or wrong, or else the settings. `ambientRuntime` says that the
    builder is used inside a runtime, which then serves if none was given. -/
def settings (b : Builder) (ambientRuntime : Bool) : Except Error Settings := do
  let some text := b.endpoint | throw (.config .endpointMissing)
  let endpoint ← Endpoint.parse text
  b.options.validate
  if !b.hasRuntime && !ambientRuntime then throw (.config .noRuntime)
  let connector ← b.chooseConnector endpoint
  return ⟨endpoint, b.serializer.getD .json, b.options, connector⟩

def build {H : Type} (b : Builder) (ambientRuntime : Bool) : Except Error (Transport H) :=
  (b.settings ambientRuntime).map .ofSettings

def describePart : Option String → String
  | none => "None"
  | some text => "Some(" ++ text ++ ")"

def describe (b : Builder) : String :=
  "WebSocketTransportBuilder \x7b endpoint: " ++ describePart (b.endpoint.map Text.quoted) ++
    ", serializer: " ++ describePart (b.serializer.map Serializer.description) ++
    ", options: " ++ b.options.describe ++
    ", custom_connector: " ++ (if b.connector.isSome then "true" else "false") ++ ", .. \x7d"

end Builder

end WampClient
