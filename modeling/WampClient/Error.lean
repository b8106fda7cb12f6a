import WampClient.Json.Fault
import WampClient.Time.Duration
import WampClient.Url.Fault
import WampClient.WebSocket.Fault

/-! # Errors of the transport

An error names its cause; `message` words it. Failures of a connection are not returned by the
transport's operations: they reach a handler when its connection ends.
-/

namespace WampClient

inductive ConfigFault where
  | zeroPayloadSize
  | zeroDuration (field : String)
  | fractionalDuration (field : String) (value : Duration)
  | endpointMissing
  | noRuntime
  | noTls
  | subprotocol (token : String)
  | other (message : String)
  deriving DecidableEq

def ConfigFault.text : ConfigFault → String
  | .zeroPayloadSize => "max_frame_payload_size must be greater than zero"
  | .zeroDuration field => field ++ " must be greater than zero"
  | .fractionalDuration field value =>
    field ++ " must be a whole number of milliseconds, got " ++ value.text
  | .endpointMissing =>
    "Endpoint is required. Use .endpoint() to set it.\n" ++
      "Example: WebSocketTransport::builder().endpoint(\"ws://127.0.0.1:8080/ws\")"
  | .noRuntime => "No Tokio runtime available. Build inside a runtime or use .runtime()"
  | .noTls => "wss:// endpoints require the `tls` feature"
  | .subprotocol token => "invalid subprotocol '" ++ token ++ "': failed to parse header value"
  | .other message => message

inductive EndpointFault where
  | url (fault : Url.Fault)
  | unsupportedScheme (scheme : String)
  | missingHost
  | other (message : String)
  deriving DecidableEq

def EndpointFault.text : EndpointFault → String
  | .url fault => fault.text
  | .unsupportedScheme scheme =>
    "unsupported scheme '" ++ scheme ++ "', only ws and wss are supported"
  | .missingHost => "missing host"
  | .other message => message

inductive FrameFault where
  | notUtf8 (fault : Utf8.Fault)
  | other (message : String)
  deriving DecidableEq

def FrameFault.text : FrameFault → String
  | .notUtf8 fault => "text payload is not UTF-8: " ++ fault.text
  | .other message => message

/-- Why a connection ended without a close handshake, as far as its own side knows. -/
inductive ConnectionFault where
  | cancelledBeforeOpen
  | cancelled
  | transportDropped
  | endedWithoutClose
  | pingTimeout
  | closeTimeout
  | other (message : String)
  deriving DecidableEq

def ConnectionFault.text : ConnectionFault → String
  | .cancelledBeforeOpen => "cancelled before open"
  | .cancelled => "cancelled"
  | .transportDropped => "transport dropped"
  | .endedWithoutClose => "connection ended without close handshake"
  | .pingTimeout => "ping timeout"
  | .closeTimeout => "close handshake timed out"
  | .other message => message

inductive JsonFault where
  | reading (fault : Json.Fault)
  | durationOutOfRange (value : Duration)
  | fractionalDuration (value : Duration)
  deriving DecidableEq

def JsonFault.text : JsonFault → String
  | .reading fault => fault.text
  | .durationOutOfRange value => "duration " ++ value.text ++ " is out of range"
  | .fractionalDuration value =>
    "duration " ++ value.text ++ " is not a whole number of milliseconds"

inductive Error where
  | config (fault : ConfigFault)
  | invalidEndpoint (endpoint : String) (fault : EndpointFault)
  | invalidFrame (fault : FrameFault)
  | notConnected
  | connection (fault : ConnectionFault)
  | handler (message : String)
  | json (fault : JsonFault)
  | webSocket (fault : WebSocket.Fault)
  deriving DecidableEq

namespace Error

def message : Error → String
  | .config fault => "Configuration error: " ++ fault.text
  | .invalidEndpoint endpoint fault => "Invalid endpoint '" ++ endpoint ++ "': " ++ fault.text
  | .invalidFrame fault => "Invalid frame: " ++ fault.text
  | .notConnected => "Transport is not connected"
  | .connection fault => "Connection failed: " ++ fault.text
  | .handler message => "Handler error: " ++ message
  | .json fault => "JSON error: " ++ fault.text
  | .webSocket fault => "WebSocket error: " ++ fault.text

def isConnection : Error → Bool
  | .notConnected | .connection _ | .webSocket _ => true
  | _ => false

/-- The operation may succeed on a later connection. -/
def isRecoverable : Error → Bool
  | .notConnected | .connection _ => true
  | _ => false

end Error

end WampClient
