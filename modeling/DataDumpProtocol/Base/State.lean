import DataDumpProtocol.Packet.TransactionPacket
import DataDumpProtocol.Packet.BlockPacket

/-!
# The base class

`DataDump` holds what client and server share: the callbacks, the two
configurations, the buffer window, the flags and the state variables behind
their timed locks.  Everything outside the process answers through an
`Environment`: whether a lock was acquired within its millisecond, what the
timer says, and what the transport and storage callbacks return.

`DataDump.receive` and `DataDump.send` are the frame functions both machines
use.  One environment serves one atomic step.
-/

namespace DataDumpProtocol

/-- A pointer into an allocation of the process. -/
structure Pointer where
  block : Nat
  offset : Nat
  deriving DecidableEq

/-- Pointer arithmetic. -/
def Pointer.advance (pointer : Pointer) (count : Nat) : Pointer :=
  { pointer with offset := pointer.offset + count }

@[simp] theorem Pointer.advance_zero (pointer : Pointer) :
    pointer.advance 0 = pointer := rfl

@[simp] theorem Pointer.advance_advance
    (pointer : Pointer)
    (left right : Nat) :
    (pointer.advance left).advance right = pointer.advance (left + right) := by
  simp [advance, Nat.add_assoc]

@[simp] theorem Pointer.block_advance (pointer : Pointer) (count : Nat) :
    (pointer.advance count).block = pointer.block := rfl

@[simp] theorem Pointer.offset_advance (pointer : Pointer) (count : Nat) :
    (pointer.advance count).offset = pointer.offset + count := rfl

/-- The allocations of the process.  Where they end is not part of it: accesses
behind the end of the server's are told by `Event.Overruns`. -/
abbrev Heap := Nat → View

namespace Heap

/-- The `length` bytes at a pointer. -/
def bytes (heap : Heap) (pointer : Pointer) (length : Nat) : List Byte :=
  (heap pointer.block).bytes pointer.offset length

/-- Overwrite the bytes at a pointer. -/
def write (heap : Heap) (pointer : Pointer) (contents : List Byte) : Heap :=
  fun block =>
    if block = pointer.block then (heap block).write pointer.offset contents
    else heap block

@[simp] theorem length_bytes (heap : Heap) (pointer : Pointer) (length : Nat) :
    (heap.bytes pointer length).length = length := by
  simp [bytes]

@[simp] theorem bytes_zero (heap : Heap) (pointer : Pointer) :
    heap.bytes pointer 0 = [] := rfl

theorem bytes_add (heap : Heap) (pointer : Pointer) (left right : Nat) :
    heap.bytes pointer (left + right) =
      heap.bytes pointer left ++ heap.bytes (pointer.advance left) right :=
  View.bytes_add _ _ _ _

@[simp] theorem bytes_write
    (heap : Heap)
    (pointer : Pointer)
    (contents : List Byte) :
    (heap.write pointer contents).bytes pointer contents.length = contents := by
  simp [bytes, write]

/-- A write leaves the bytes in front of it alone. -/
theorem bytes_write_before
    (heap : Heap)
    (pointer : Pointer)
    (contents : List Byte)
    (count : Nat) :
    (heap.write (pointer.advance count) contents).bytes pointer count =
      heap.bytes pointer count := by
  unfold bytes write
  simp only [Pointer.block_advance, if_true]
  apply View.bytes_congr
  intro i inside
  apply View.write_of_outside
  left
  simp
  omega

end Heap

/-- `fsm_state_e`. -/
inductive FsmState
  | idle
  | request
  | response
  | initiateBlock
  | block
  | terminate
  deriving DecidableEq

/-- What everything outside the state machines answers during one step. -/
structure Environment where
  /-- Whether the step's `try_lock_for` acquired the state lock. -/
  lockAcquired : Bool := true
  /-- The result of starting the state transition timer. -/
  timerStarted : Bool := true
  /-- The result of `isExpired`. -/
  timerExpired : Bool := false
  /-- The result of `sendCB`. -/
  sendAccepted : Bool := true
  /-- The frame that waits at `recvCB`, empty when there is none. -/
  incoming : List Byte := []
  /-- The bytes that happen to lie behind a buffer's end. -/
  beyond : View := fun _ => 0
  /-- The bytes that `consumerCB` reads when asked for at most so many. -/
  stored : Nat → List Byte := fun _ => []
  /-- The count that `consumerCB` returns when asked to erase so many. -/
  erased : Nat → Nat := id

/-- What can be observed of a machine. -/
inductive Event
  /-- The body of a state starts, with this buffer pointer. -/
  | body (state : FsmState) (internalBuffer : Option Pointer)
  /-- `recvCB` was called. -/
  | polled
  /-- `receive` accepted a transaction packet with this header. -/
  | received (header : TranscationHeader)
  /-- `receive` accepted a block packet with this header. -/
  | blockReceived (header : BlockHeader)
  /-- `sendCB` was called with this frame and returned this. -/
  | sent (frame : List Byte) (accepted : Bool)
  /-- `consumerCB` was asked to read and wrote these bytes. -/
  | storageRead (target : Pointer) (maxSize : Nat) (contents : List Byte)
  /-- Bytes of the staging buffer were copied to a block packet. -/
  | payloadCopied (source : Pointer) (size : Nat)
  /-- A block's payload was copied to the caller's buffer. -/
  | blockStored (target : Pointer) (payload : List Byte)
  /-- `consumerCB` was asked to erase and returned this count. -/
  | storageErased (size reported : Nat)
  /-- `notifyCB` was called. -/
  | notified (transferStatus : Bool)
  /-- `startNewTransfer` returned true. -/
  | transferStarted (buffer : Pointer) (size : Nat)
  /-- `startServer` returned true. -/
  | serverStarted
  /-- `stopServer` returned. -/
  | serverStopped
  deriving DecidableEq

/-- The body of a state starts. -/
def Event.isBody : Event → Bool
  | .body _ _ => true
  | _ => false

/-- The arguments of the two constructors.  A callback is represented by
whether it was given. -/
structure Parameters where
  transactionID : TransactionId
  blocksPerTransaction : BlocksPerTransaction
  maxPacketlen : MaxPacketLen
  ackTimeout : AckTimeout
  sendCB : Bool := true
  recvCB : Bool := true
  storageRead : Bool := true
  appStatusCB : Bool := true
  deriving DecidableEq

/-- The configuration a constructor stores for its own side. -/
def Parameters.config (parameters : Parameters) : TranscationHeader where
  transactionID := parameters.transactionID
  maxBlocksPerTransaction := parameters.blocksPerTransaction
  maxPacketlen := parameters.maxPacketlen
  maxACKTimeout := parameters.ackTimeout

/-- The members of `DataDump` that the state machines use. -/
structure DataDump where
  maxPacketSize : Nat
  sendCB : Bool
  recvCB : Bool
  internalCounter : BitVec 32 := 1
  serverConfig : TranscationHeader := {}
  clientConfig : TranscationHeader := {}
  internalBuffer : Option Pointer := none
  internalBufferLen : Nat := 0
  consumerCB : Bool
  notifyCB : Bool
  isTransferSuccess : Bool := false
  isBusy : Bool := false
  currentState : FsmState := .idle
  nextState : FsmState := .idle
  heap : Heap := fun _ _ => 0

/-- `size_t` subtraction, which wraps around. -/
def sizeSub (left right : Nat) : Nat :=
  if right ≤ left then left - right else left + 2 ^ 64 - right

/-- `size_t` multiplication. -/
def sizeMul (left right : Nat) : Nat := left * right % 2 ^ 64

theorem sizeSub_eq
    {left right : Nat}
    (le : right ≤ left) :
    sizeSub left right = left - right :=
  if_pos le

theorem sizeMul_eq {left right : Nat} (bounded : left * right < 2 ^ 64) :
    sizeMul left right = left * right :=
  Nat.mod_eq_of_lt bounded

/-- The payload room of a number of packets, computed in `size_t`. -/
theorem sizeMul_sizeSub_eq
    {limit header : Nat}
    (blocks : BlocksPerTransaction)
    (room : header ≤ limit)
    (byteSized : limit < 2 ^ 8) :
    sizeMul (sizeSub limit header) blocks.toNat =
      (limit - header) * blocks.toNat := by
  have bound : (limit - header) * blocks.toNat ≤ 2 ^ 8 * 2 ^ 8 :=
    Nat.mul_le_mul (by omega) (Nat.le_of_lt blocks.isLt)
  rw [sizeSub_eq room, sizeMul_eq (by omega)]

/-- `CRC16::generate`, whose computation is commented out. -/
def CRC16.generate (_buffer : View) (_length : Nat) : Crc := 0

/-- The part of a header that the configurations are copied from: the four
setters called on them, in the source's order. -/
def TranscationHeader.setTerms
    (header : TranscationHeader)
    (ackTimeout : AckTimeout)
    (blocksPerTransaction : BlocksPerTransaction)
    (maxSizeofBlock : MaxPacketLen)
    (transactionId : TransactionId) : TranscationHeader :=
  { header with
    maxACKTimeout := ackTimeout
    maxBlocksPerTransaction := blocksPerTransaction
    maxPacketlen := maxSizeofBlock
    transactionID := transactionId }

/-- The four values that client and server negotiate. -/
structure Terms where
  transactionID : TransactionId
  maxBlocksPerTransaction : BlocksPerTransaction
  maxPacketlen : MaxPacketLen
  maxACKTimeout : AckTimeout
  deriving DecidableEq

/-- The negotiated values that a header carries. -/
def TranscationHeader.terms (header : TranscationHeader) : Terms where
  transactionID := header.transactionID
  maxBlocksPerTransaction := header.maxBlocksPerTransaction
  maxPacketlen := header.maxPacketlen
  maxACKTimeout := header.maxACKTimeout

@[simp] theorem TranscationHeader.terms_setTerms
    (header : TranscationHeader)
    (ackTimeout : AckTimeout)
    (blocksPerTransaction : BlocksPerTransaction)
    (maxSizeofBlock : MaxPacketLen)
    (transactionId : TransactionId) :
    (header.setTerms ackTimeout blocksPerTransaction maxSizeofBlock
      transactionId).terms =
      ⟨transactionId, blocksPerTransaction, maxSizeofBlock, ackTimeout⟩ := rfl

namespace DataDump

/-! ## State accessors -/

/-- `setCurrentFSMState`. -/
def setCurrentFSMState
    (dump : DataDump)
    (state : FsmState)
    (env : Environment) : DataDump :=
  if env.lockAcquired then { dump with currentState := state } else dump

/-- `setNextFSMState`. -/
def setNextFSMState
    (dump : DataDump)
    (state : FsmState)
    (env : Environment) : DataDump :=
  if env.lockAcquired then { dump with nextState := state } else dump

/-- `getCurrentFSMState`. -/
def getCurrentFSMState (dump : DataDump) (env : Environment) : FsmState :=
  if env.lockAcquired then dump.currentState else .terminate

/-- `getNextFSMState`. -/
def getNextFSMState (dump : DataDump) (env : Environment) : FsmState :=
  if env.lockAcquired then dump.nextState else .terminate

/-! ## Frames -/

/-- `send` for transaction packets: its result, the packet afterwards, and the
call of `sendCB` if there was one. -/
def send
    (dump : DataDump)
    (packet : TransactionPacket)
    (length : BitVec 8)
    (env : Environment) : Bool × TransactionPacket × List Event :=
  if dump.maxPacketSize < length.toNat then
    (false, packet, [])
  else
    let (_, packet, buffer) :=
      packet.serialize (fun _ => 0) (some 0) length.toNat
    if dump.sendCB && decide (length.toNat ≤ dump.maxPacketSize) then
      (env.sendAccepted, packet,
        [.sent (buffer.bytes 0 length.toNat) env.sendAccepted])
    else
      (false, packet, [])

/-- `send` for block packets: its result and the call of `sendCB`. -/
def sendBlock
    (dump : DataDump)
    (packet : BlockTxRxPacket)
    (length : BitVec 8)
    (env : Environment) : Bool × List Event :=
  if dump.maxPacketSize < length.toNat then
    (false, [])
  else
    let (written, buffer) :=
      packet.serialize env.beyond (fun _ => 0) (some 0) dump.maxPacketSize
    let len := BitVec.ofNat 8 written
    if dump.sendCB && decide (len.toNat ≤ dump.maxPacketSize) then
      (env.sendAccepted, [.sent (buffer.bytes 0 len.toNat) env.sendAccepted])
    else
      (false, [])

/-- What `recvCB` hands over: the waiting frame if it fits the buffer. -/
def delivered (dump : DataDump) (env : Environment) : List Byte :=
  if dump.recvCB && decide (env.incoming.length ≤ dump.maxPacketSize) then
    env.incoming
  else
    []

/-- `recvByteBuffer` after `recvCB`, zero behind the frame, and the memory
behind its end. -/
def recvByteBuffer (dump : DataDump) (env : Environment) : View :=
  View.ofList
    (dump.delivered env ++
      List.replicate (dump.maxPacketSize - (dump.delivered env).length) 0)
    env.beyond

/-- The common body of the two `receive` functions: the length returned and
the packet afterwards. -/
def receiveWith
    {Packet : Type}
    (deserialize : Packet → View → Option Nat → Nat → Bool × Packet)
    (getCrc : Packet → Crc)
    (dump : DataDump)
    (packet : Packet)
    (msgType : MsgType)
    (env : Environment) : Nat × Packet :=
  let len := (dump.delivered env).length
  let buffer := dump.recvByteBuffer env
  if 0 < len then
    if buffer 0 ≠ msgType.toByte then
      (0, packet)
    else
      let packet := (deserialize packet buffer (some 0) len).2
      if getCrc packet ≠ CRC16.generate buffer len then
        (0, packet)
      else
        (len, packet)
  else
    (len, packet)

/-- `receive` for transaction packets. -/
def receive :
    DataDump → TransactionPacket → MsgType → Environment →
      Nat × TransactionPacket :=
  receiveWith TransactionPacket.deserialize fun packet => packet.header.crc

/-- `receive` for block packets. -/
def receiveBlock :
    DataDump → BlockTxRxPacket → MsgType → Environment →
      Nat × BlockTxRxPacket :=
  receiveWith BlockTxRxPacket.deserialize fun packet => packet.header.crc

/-- The call of `recvCB` that a `receive` makes. -/
def pollEvent (dump : DataDump) : List Event :=
  if dump.recvCB then [.polled] else []

end DataDump

end DataDumpProtocol
