import WampClient.Error
import WampClient.WebSocket.Assembly

/-! # Transport options

How large an inbound frame may be and how long the transport waits for its peer. Options are valid
when the size is positive and every duration is a positive, whole number of milliseconds.
-/

namespace WampClient

structure Options where
  /-- The largest inbound frame, and the largest inbound message, in bytes. -/
  maxFramePayloadSize : UInt64
  /-- The time between keep-alive pings, if any are sent. -/
  autoPingInterval : Option Duration
  /-- How long a ping may stay unanswered. -/
  autoPingTimeout : Duration
  /-- How long the peer may take to answer a close frame. -/
  closeTimeout : Duration
  deriving DecidableEq

namespace Options

/-- 128 KiB, a ping every ten seconds with five seconds to answer, one minute to close. -/
def default : Options where
  maxFramePayloadSize := 131072
  autoPingInterval := some (.ofSeconds 10)
  autoPingTimeout := .ofSeconds 5
  closeTimeout := .ofSeconds 60

instance : Inhabited Options := ⟨default⟩

def withMaxFramePayloadSize (o : Options) (size : UInt64) : Options :=
  { o with maxFramePayloadSize := size }

def withAutoPingInterval (o : Options) (interval : Duration) : Options :=
  { o with autoPingInterval := some interval }

def withoutAutoPing (o : Options) : Options :=
  { o with autoPingInterval := none }

def withAutoPingTimeout (o : Options) (timeout : Duration) : Options :=
  { o with autoPingTimeout := timeout }

def withCloseTimeout (o : Options) (timeout : Duration) : Options :=
  { o with closeTimeout := timeout }

/-- A duration must be positive and a whole number of milliseconds. -/
def checkDuration (field : String) (d : Duration) : Except Error Unit :=
  if d = Duration.zero then .error (.config (.zeroDuration field))
  else if d.IsWholeMillis then .ok ()
  else .error (.config (.fractionalDuration field d))

/-- The first thing that is wrong with the options, if anything is: the size is looked at first, and
    then the spans in the order of the fields. No span is too long. -/
def validate (o : Options) : Except Error Unit := do
  if o.maxFramePayloadSize = 0 then throw (.config .zeroPayloadSize)
  if let some interval := o.autoPingInterval then checkDuration "auto_ping_interval" interval
  checkDuration "auto_ping_timeout" o.autoPingTimeout
  checkDuration "close_timeout" o.closeTimeout

/-- The limits on inbound data: a message may be as large as a single frame. -/
def limits (o : Options) : WebSocket.Limits :=
  ⟨o.maxFramePayloadSize.toNat, o.maxFramePayloadSize.toNat⟩

def describeInterval : Option Duration → String
  | none => "None"
  | some d => "Some(" ++ d.text ++ ")"

def describe (o : Options) : String :=
  "TransportOptions \x7b max_frame_payload_size: " ++ Decimal.text o.maxFramePayloadSize.toNat ++
    ", auto_ping_interval: " ++ describeInterval o.autoPingInterval ++
    ", auto_ping_timeout: " ++ o.autoPingTimeout.text ++
    ", close_timeout: " ++ o.closeTimeout.text ++ " \x7d"

end Options

end WampClient
