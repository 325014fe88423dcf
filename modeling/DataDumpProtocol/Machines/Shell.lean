import DataDumpProtocol.Base.State

/-!
# The shell of `FSMLoop`

Both `FSMLoop` functions begin by detecting a state change, updating the
running indicator and selecting a state body, and both keep sending or polling
in loops that the state transition timer can end.  A party is the base class
together with the program point of the thread that runs `FSMLoop`; every call
of a state accessor, of a transport callback or of a storage callback is a
step of its own, so other threads may act in between.
-/

namespace DataDumpProtocol

/-- The program points before the `switch`, in the order they are reached. -/
inductive Dispatch
  /-- Before `getNextFSMState` in the comparison. -/
  | readNext
  /-- Before `getCurrentFSMState` in the comparison. -/
  | readCurrent (next : FsmState)
  /-- Before the second `getNextFSMState`. -/
  | reloadNext
  /-- Before `setCurrentFSMState`. -/
  | storeCurrent (next : FsmState)
  /-- Before the running indicator is updated. -/
  | updateStatus
  /-- Before the `switch`. -/
  | select
  deriving DecidableEq

/-- A program point of `FSMLoop`, given those inside the state bodies. -/
inductive Point (Body : Type)
  | top (at_ : Dispatch)
  /-- At the start of a state body. -/
  | enter (state : FsmState)
  | body (at_ : Body)
  /-- Before the body's last `setNextFSMState`. -/
  | leave (target : FsmState)
  deriving DecidableEq

/-- A `DataDump` object and the program point of its `FSMLoop` thread. -/
structure Party (Body : Type) extends DataDump where
  point : Point Body := .top .readNext

namespace DataDump

/-- The part of `FSMLoop` before the state bodies. -/
def dispatch (dump : DataDump) (env : Environment) :
    Dispatch → DataDump × (Dispatch ⊕ FsmState)
  | .readNext => (dump, .inl (.readCurrent (dump.getNextFSMState env)))
  | .readCurrent next =>
      if next ≠ dump.getCurrentFSMState env then (dump, .inl .reloadNext)
      else (dump, .inl .updateStatus)
  | .reloadNext => (dump, .inl (.storeCurrent (dump.getNextFSMState env)))
  | .storeCurrent next =>
      (dump.setCurrentFSMState next env, .inl .updateStatus)
  | .updateStatus =>
      if dump.getCurrentFSMState env ≠ .idle then
        ({ dump with isBusy := true }, .inl .select)
      else
        (dump, .inl .select)
  | .select => (dump, .inr (dump.getCurrentFSMState env))

/-- One round of `do { stateRet = send(…); } while (…)`: the value of
`stateRet` when the loop ends, and nothing when it goes round again. -/
def sendLoop
    (dump : DataDump)
    (packet : TransactionPacket)
    (env : Environment) : Option Bool × TransactionPacket × List Event :=
  let (stateRet, packet, events) :=
    dump.send packet (.ofNat 8 packet.getPacketSize) env
  if stateRet = false ∧ env.timerExpired = false then (none, packet, events)
  else (some stateRet, packet, events)

/-- One round of the loop that sends a block packet. -/
def sendBlockLoop
    (dump : DataDump)
    (packet : BlockTxRxPacket)
    (env : Environment) : Option Bool × List Event :=
  let (stateRet, events) :=
    dump.sendBlock packet (.ofNat 8 packet.getPacketSize) env
  if stateRet = false ∧ env.timerExpired = false then (none, events)
  else (some stateRet, events)

/-- One round of `do { recvLen = receive(…); } while (…)`: the value of
`recvLen` when the loop ends, and nothing when it goes round again. -/
def receiveLoop
    (dump : DataDump)
    (packet : TransactionPacket)
    (msgType : MsgType)
    (env : Environment) : Option Nat × TransactionPacket × List Event :=
  let (recvLen, packet) := dump.receive packet msgType env
  if recvLen = 0 ∧ env.timerExpired = false then
    (none, packet, dump.pollEvent)
  else if recvLen = 0 then
    (some recvLen, packet, dump.pollEvent)
  else
    (some recvLen, packet, dump.pollEvent ++ [.received packet.header])

/-- One round of the loop that receives a block packet. -/
def receiveBlockLoop
    (dump : DataDump)
    (packet : BlockTxRxPacket)
    (msgType : MsgType)
    (env : Environment) : Option Nat × BlockTxRxPacket × List Event :=
  let (recvLen, packet) := dump.receiveBlock packet msgType env
  if recvLen = 0 ∧ env.timerExpired = false then
    (none, packet, dump.pollEvent)
  else if recvLen = 0 then
    (some recvLen, packet, dump.pollEvent)
  else
    (some recvLen, packet, dump.pollEvent ++ [.blockReceived packet.header])

end DataDump

namespace Party

variable {Body : Type}

/-- Go to another program point. -/
def goto (party : Party Body) (point : Point Body) : Party Body :=
  { party with point := point }

@[simp] theorem toDataDump_goto (party : Party Body) (point : Point Body) :
    (party.goto point).toDataDump = party.toDataDump := rfl

@[simp] theorem point_goto (party : Party Body) (point : Point Body) :
    (party.goto point).point = point := rfl

end Party

end DataDumpProtocol
