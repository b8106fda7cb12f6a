import WampClient.Json.Printer
import WampClient.Options.Json
import WampClient.Transport.Builder
import WampClient.Proofs.Text.Utf8
import WampClient.Proofs.Transport.LinkInvariant
import WampClient.Proofs.Transport.Callbacks
import WampClient.Proofs.Transport.Commands
import WampClient.Proofs.Client.Outbound
import WampClient.Proofs.Transport.Phase
import WampClient.Proofs.Transport.Verdict
import WampClient.Proofs.Transport.Rest
import WampClient.Proofs.Transport.Delivery
import WampClient.Proofs.Transport.Abort
import WampClient.Proofs.Transport.Connects
import WampClient.Proofs.Client.Inbound
import WampClient.Proofs.Client.CleanClose
import WampClient.Proofs.Transport.Isolation
import WampClient.Proofs.Transport.Openness
import WampClient.Proofs.Socket.Change
import WampClient.Proofs.Socket.Watch
import WampClient.Proofs.Socket.Timely
import WampClient.Proofs.Socket.Deadlines
import WampClient.Proofs.Socket.CloseTimeout
import WampClient.Proofs.Socket.KeepAlive
import WampClient.Proofs.Socket.Writes
import WampClient.Proofs.Socket.Stalls
import WampClient.Proofs.Options.Valid
import WampClient.Proofs.Socket.Crash
import WampClient.Proofs.Socket.Overflow
import WampClient.Proofs.Text.Decode
import WampClient.Proofs.Json.Printed
import WampClient.Proofs.Options.Stored
import WampClient.Proofs.Options.Lossless
import WampClient.Proofs.Frame.Conversion
import WampClient.Proofs.Json.Wire
import WampClient.Proofs.Endpoint.NormalForm
import WampClient.Proofs.Http.Target
import WampClient.Proofs.Handshake.Request
import WampClient.Proofs.WebSocket.Parts
import WampClient.Proofs.Socket.Limits
import WampClient.Proofs.Transport.Superseded
