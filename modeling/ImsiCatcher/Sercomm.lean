import ImsiCatcher.Machine
import ImsiCatcher.Octets
import ImsiCatcher.Stuffing

/-!
# The serial line of `sercomm.c`

The same code runs on the phone and, in `osmocon`, on the host. The transmitter keeps a queue
for each DLCI and hands out one octet at a time; the receiver takes one octet at a time and
dispatches a message at the flag that ends it. The address and the control octet are stuffed
like the data, but the receiver does not unstuff them.
-/

namespace ImsiCatcher

def hdlcFlag : UInt8 := 0x7e
def hdlcEscape : UInt8 := 0x7d
def hdlcCUi : UInt8 := 0x03

def scDlciMax : ℕ := 129

def hdlc : Stuffing UInt8 where
  flag := hdlcFlag
  escape := hdlcEscape
  marked ch := ch = hdlcFlag ∨ ch = hdlcEscape ∨ ch = 0x00
  change ch := ch ^^^ 0x20
  change_change ch := by rw [UInt8.xor_assoc, UInt8.xor_self, UInt8.xor_zero]
  marked_flag := by decide
  marked_escape := by decide
  escape_ne_flag := by decide
  change_ne_flag ch h := by
    rcases of_decide_eq_true h with rfl | rfl | rfl <;> decide

inductive RxState where
  | waitStart
  | addr
  | ctrl
  | data
  | escape
  deriving DecidableEq, Repr

/-- The transmit side. `msg` is what lies between `next_char` and the tail. -/
structure SercommTx where
  dlciQueues : ℕ → List Octets := fun _ => []
  msg : Option Octets := none
  state : RxState := .waitStart

structure SercommRx where
  msg : Option Octets := none
  state : RxState := .waitStart
  dlci : UInt8 := 0
  ctrl : UInt8 := 0

/-- `SERCOMM_RX_MSG_SIZE`, and the DLCIs that have a handler. -/
structure SercommConfig where
  rxMsgSize : ℕ
  dlciHandler : UInt8 → Bool

namespace SercommTx

/-- `sercomm_sendmsg`: the address and the control octet are put in front. -/
def sercommSendmsg (t : SercommTx) (dlci : UInt8) (msg : Octets) : SercommTx :=
  { t with dlciQueues := fun i =>
      if i = dlci.toNat then t.dlciQueues i ++ [dlci :: hdlcCUi :: msg] else t.dlciQueues i }

def nextQueue (t : SercommTx) : Option ℕ :=
  (List.range scDlciMax).find? fun i => t.dlciQueues i ≠ []

def sercommDrvPull (t : SercommTx) : SercommTx × Option UInt8 :=
  match t.msg with
  | none =>
    match t.nextQueue with
    | none => (t, none)
    | some i =>
      ({ t with
          dlciQueues := fun j => if j = i then (t.dlciQueues j).tail else t.dlciQueues j
          msg := (t.dlciQueues i).head? }, some hdlcFlag)
  | some chars =>
    if t.state = .escape then
      ({ t with msg := some chars.tail, state := .data }, some (chars.headD 0))
    else match chars with
      | [] => ({ t with msg := none }, some hdlcFlag)
      | ch :: rest =>
        if ch = hdlcFlag ∨ ch = hdlcEscape ∨ ch = 0x00 then
          ({ t with msg := some ((ch ^^^ 0x20) :: rest), state := .escape }, some hdlcEscape)
        else ({ t with msg := some rest }, some ch)

end SercommTx

/-- `dispatch_rx_msg`: the message reaches the handler of its DLCI, where there is one. -/
def dispatchRxMsg (cfg : SercommConfig) (dlci : UInt8) (msg : Octets) : List (UInt8 × Octets) :=
  if scDlciMax ≤ dlci.toNat ∨ cfg.dlciHandler dlci = false then [] else [(dlci, msg)]

/-- `sercomm_drv_rx_char`. An octet that finds the buffer full is dropped, with the buffer. -/
def SercommRx.sercommDrvRxChar (cfg : SercommConfig) (r : SercommRx) (ch : UInt8) :
    SercommRx × List (UInt8 × Octets) :=
  let msg := r.msg.getD []
  if msg.length = cfg.rxMsgSize then ({ r with msg := some [], state := .waitStart }, [])
  else
    let r := { r with msg := some msg }
    match r.state with
    | .waitStart => if ch ≠ hdlcFlag then (r, []) else ({ r with state := .addr }, [])
    | .addr => ({ r with dlci := ch, state := .ctrl }, [])
    | .ctrl => ({ r with ctrl := ch, state := .data }, [])
    | .data =>
      if ch = hdlcEscape then ({ r with state := .escape }, [])
      else if ch = hdlcFlag then
        ({ r with msg := none, state := .waitStart }, dispatchRxMsg cfg r.dlci msg)
      else ({ r with msg := some (msg ++ [ch]) }, [])
    | .escape => ({ r with msg := some (msg ++ [ch ^^^ 0x20]), state := .data }, [])

def sercommRx (cfg : SercommConfig) : Machine SercommRx UInt8 (UInt8 × Octets) :=
  ⟨SercommRx.sercommDrvRxChar cfg⟩

@[simp] theorem sercommRx_step (cfg : SercommConfig) (r : SercommRx) (ch : UInt8) :
    (sercommRx cfg).step r ch = r.sercommDrvRxChar cfg ch := rfl

end ImsiCatcher
