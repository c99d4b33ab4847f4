import ImsiCatcher.NetworkOrder
import ImsiCatcher.SerialLine

/-!
# Between the phone and the layer 2 program

`osmocon` takes the messages of the phone from the serial line and writes them to the socket of
the layer 2 program, with their length in front; the other way it reads a length and a message
and sends it to the phone. The layer 2 program reads with `layer2_read` and writes through a
queue. Reads and writes are complete, or find nothing.
-/

namespace ImsiCatcher

def scDlciL1aL23 : UInt8 := 5
def gsmL2Length : ℕ := 256

/-- `osmo_send_l1` and `hdlc_tool_cb` put the length in front of a message. -/
def lengthPrefixed (msg : Octets) : Octets := htons msg.length ++ msg

/-! ### From the phone -/

/-- The layer 2 program's end of the socket; `reading` is the length of a payload that it waits
for. -/
structure Layer2Socket where
  incoming : Octets := []
  reading : Option ℕ := none
  closed : Bool := false

inductive SocketEvent where
  | hdlcToolCb (msg : Octets)
  | select

namespace Layer2Socket

/-- The second read of `layer2_read`. -/
def readPayload (s : Layer2Socket) (len : ℕ) : Layer2Socket × List Octets :=
  if s.incoming = [] ∧ 0 < len then ({ s with reading := some len }, [])
  else
    let msg := s.incoming.take len
    ({ s with incoming := s.incoming.drop len, reading := none },
      if msg.length ≠ len then [] else [msg])

def layer2Read (s : Layer2Socket) : Layer2Socket × List Octets :=
  match s.reading with
  | some len => s.readPayload len
  | none =>
    if s.incoming.length < 2 then ({ s with incoming := [], closed := true }, [])
    else
      let len := ntohs s.incoming 0
      let s := { s with incoming := s.incoming.drop 2 }
      if gsmL2Length < len then (s, []) else s.readPayload len

/-- `select` finds the socket readable where octets have come. -/
def step (s : Layer2Socket) : SocketEvent → Layer2Socket × List Octets
  | .hdlcToolCb msg => ({ s with incoming := s.incoming ++ lengthPrefixed msg }, [])
  | .select => if s.closed ∨ s.incoming = [] then (s, []) else s.layer2Read

end Layer2Socket

def layer2Socket : Machine Layer2Socket SocketEvent Octets := ⟨Layer2Socket.step⟩

/-! ### To the phone -/

def hdlcSendToPhone (data : Octets) : List Octets := if 512 < data.length then [] else [data]

inductive ToolEvent where
  | arrive (octets : Octets)
  | toolRead

/-- `un_tool_read` reads on until it has the length and then the whole message. -/
def unToolRead (incoming : Octets) : Octets × List Octets :=
  if incoming.length < 2 then (incoming, [])
  else
    let length := ntohs incoming 0
    let payload := incoming.drop 2
    if payload.length < length then (incoming, [])
    else (payload.drop length, hdlcSendToPhone (payload.take length))

def toolSocket : Machine Octets ToolEvent Octets where
  step
    | incoming, .arrive octets => (incoming ++ octets, [])
    | incoming, .toolRead => unToolRead incoming

end ImsiCatcher
