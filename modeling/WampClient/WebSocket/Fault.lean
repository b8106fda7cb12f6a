import WampClient.Http.Fault
import WampClient.Text.Decimal

/-! # Faults of a WebSocket connection

Everything that can end a connection short of a completed close handshake, by cause.
-/

namespace WampClient.WebSocket

inductive CapacityFault where
  | tooManyHeaders
  | messageTooLong (size limit : Nat)
  deriving Repr, DecidableEq

def CapacityFault.text : CapacityFault → String
  | .tooManyHeaders => "Too many headers"
  | .messageTooLong size limit =>
    "Message too long: " ++ Decimal.text size ++ " > " ++ Decimal.text limit

inductive SubprotocolFault where
  | noneRequested
  | notRequested
  | missing
  deriving Repr, DecidableEq

def SubprotocolFault.text : SubprotocolFault → String
  | .noneRequested => "Server sent a subprotocol but none was requested"
  | .notRequested => "Server sent an invalid subprotocol"
  | .missing => "Server sent no subprotocol"

inductive HeadFault where
  | headerName
  | headerValue
  | newLine
  | status
  | token
  | tooManyHeaders
  | version
  deriving Repr, DecidableEq

def HeadFault.text : HeadFault → String
  | .headerName => "invalid header name"
  | .headerValue => "invalid header value"
  | .newLine => "invalid new line"
  | .status => "invalid response status"
  | .token => "invalid token"
  | .tooManyHeaders => "too many headers"
  | .version => "invalid HTTP version"

inductive ProtocolFault where
  | wrongMethod
  | wrongVersion
  | missingConnectionUpgrade
  | missingUpgradeWebSocket
  | missingVersion
  | missingKey
  | acceptKeyMismatch
  | subprotocol (fault : SubprotocolFault)
  | junkAfterRequest
  | successfulCustomResponse
  | invalidHeader (name : String)
  | handshakeIncomplete
  | head (fault : HeadFault)
  | sendAfterClosing
  | receivedAfterClosing
  | nonZeroReservedBits
  | unmaskedFromClient
  | maskedFromServer
  | fragmentedControl
  | controlTooBig
  | unknownControl (opcode : Nat)
  | unknownData (opcode : Nat)
  | unexpectedContinuation
  | expectedFragment (kind : String)
  | resetWithoutClosing
  | invalidOpcode (opcode : Nat)
  | invalidCloseSequence
  deriving Repr, DecidableEq

def ProtocolFault.text : ProtocolFault → String
  | .wrongMethod => "Unsupported HTTP method used - only GET is allowed"
  | .wrongVersion => "HTTP version must be 1.1 or higher"
  | .missingConnectionUpgrade => "No \"Connection: upgrade\" header"
  | .missingUpgradeWebSocket => "No \"Upgrade: websocket\" header"
  | .missingVersion => "No \"Sec-WebSocket-Version: 13\" header"
  | .missingKey => "No \"Sec-WebSocket-Key\" header"
  | .acceptKeyMismatch => "Key mismatch in \"Sec-WebSocket-Accept\" header"
  | .subprotocol fault => "SubProtocol error: " ++ fault.text
  | .junkAfterRequest => "Junk after client request"
  | .successfulCustomResponse => "Custom response must not be successful"
  | .invalidHeader name => "Missing, duplicated or incorrect header " ++ name
  | .handshakeIncomplete => "Handshake not finished"
  | .head fault => "httparse error: " ++ fault.text
  | .sendAfterClosing => "Sending after closing is not allowed"
  | .receivedAfterClosing => "Remote sent after having closed"
  | .nonZeroReservedBits => "Reserved bits are non-zero"
  | .unmaskedFromClient => "Received an unmasked frame from client"
  | .maskedFromServer => "Received a masked frame from server"
  | .fragmentedControl => "Fragmented control frame"
  | .controlTooBig => "Control frame too big (payload must be 125 bytes or less)"
  | .unknownControl opcode => "Unknown control frame type: " ++ Decimal.text opcode
  | .unknownData opcode => "Unknown data frame type: " ++ Decimal.text opcode
  | .unexpectedContinuation => "Continue frame but nothing to continue"
  | .expectedFragment kind => "While waiting for more fragments received: " ++ kind
  | .resetWithoutClosing => "Connection reset without closing handshake"
  | .invalidOpcode opcode => "Encountered invalid opcode: " ++ Decimal.text opcode
  | .invalidCloseSequence => "Invalid close sequence"

inductive AddressFault where
  | noTls
  | noHost
  | unableToConnect (address : String)
  | unsupportedScheme
  | emptyHost
  | noPath
  deriving Repr, DecidableEq

def AddressFault.text : AddressFault → String
  | .noTls => "TLS support not compiled in"
  | .noHost => "No host name in the URL"
  | .unableToConnect address => "Unable to connect to " ++ address
  | .unsupportedScheme => "URL scheme not supported"
  | .emptyHost => "URL contains empty host name"
  | .noPath => "No path/query in URL"

inductive Fault where
  /-- The close handshake was completed before. -/
  | connectionClosed
  /-- The connection was used after its end. -/
  | alreadyClosed
  /-- The stream below failed; `text` is what the system says of it. -/
  | network (text : String)
  | capacity (fault : CapacityFault)
  | protocol (fault : ProtocolFault)
  | writeBufferFull
  | utf8 (text : String)
  | attackAttempt
  | address (fault : AddressFault)
  /-- The answer to the upgrade request has another status than 101. -/
  | status (code : String)
  | format (fault : Http.Fault)
  deriving Repr, DecidableEq

def Fault.text : Fault → String
  | .connectionClosed => "Connection closed normally"
  | .alreadyClosed => "Trying to work with closed connection"
  | .network text => "IO error: " ++ text
  | .capacity fault => "Space limit exceeded: " ++ fault.text
  | .protocol fault => "WebSocket protocol error: " ++ fault.text
  | .writeBufferFull => "Write buffer is full"
  | .utf8 text => "UTF-8 encoding error: " ++ text
  | .attackAttempt => "Attack attempt detected"
  | .address fault => "URL error: " ++ fault.text
  | .status code => "HTTP error: " ++ code
  | .format fault => "HTTP format error: " ++ fault.text

end WampClient.WebSocket
