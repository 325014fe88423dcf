import DataDumpProtocol.Library.Machine
import DataDumpProtocol.Machines.Shell

/-!
# The server

`DDServer`: its constructor, `startServer`, `stopServer` and the state bodies
of its `FSMLoop`.  A second thread may be inside `stopServer`, which polls the
current state before it stores `IDLE` as the next one.
-/

namespace DataDumpProtocol

/-- The program points inside the server's state bodies, with the packets
that are live there. -/
inductive ServerBody
  /-- `REQUEST`: in the loop that waits for a request. -/
  | requestReceive (request : TransactionPacket)
  /-- `RESPONSE`: in the loop that sends the response. -/
  | responseSend (response : TransactionPacket)
  /-- `INITIATE_BLOCK`: in the loop that waits for the initiate message. -/
  | initiateReceive (initiate : TransactionPacket)
  /-- `BLOCK`: in the loop that sends the block. -/
  | blockSend (blockDataPacket : BlockTxRxPacket)
  /-- `BLOCK`: before `getCurrentFSMState` when more blocks follow. -/
  | blockContinue
  /-- `BLOCK`: in the loop that waits for the acknowledgement. -/
  | ackReceive (ackPacket : TransactionPacket)
  deriving DecidableEq

/-- The program points of the thread that calls `stopServer`. -/
inductive Stopper
  /-- Not inside `stopServer`. -/
  | outside
  /-- In the loop that waits for the `REQUEST` state. -/
  | waiting
  /-- Before `setNextFSMState`. -/
  | storing
  deriving DecidableEq

/-- `DDServer`. -/
structure DDServer extends Party ServerBody where
  stopper : Stopper := .outside

namespace DDServer

/-- The size of the staging buffer that the constructor allocates. -/
def stagingSize (parameters : Parameters) : Nat :=
  sizeMul
    (sizeSub parameters.maxPacketlen.toNat BlockTxRxPacket.getHeaderSize)
    parameters.blocksPerTransaction.toNat

/-- The start of the staging buffer. -/
def staging : Pointer := ⟨0, 0⟩

/-- `new uint8_t[size]`.  It throws when no array can have that size, and the
constructor catches what it throws. -/
def allocate (size : Nat) : Option Pointer :=
  if size < 2 ^ 63 then some staging else none

/-- The constructor. -/
def new (parameters : Parameters) (heap : Heap) : DDServer where
  maxPacketSize := parameters.maxPacketlen.toNat
  sendCB := parameters.sendCB
  recvCB := parameters.recvCB
  consumerCB := parameters.storageRead
  notifyCB := parameters.appStatusCB
  serverConfig := parameters.config
  internalBuffer := allocate (stagingSize parameters)
  heap := heap

/-- Go to another program point of `FSMLoop`. -/
def goto (server : DDServer) (point : Point ServerBody) : DDServer :=
  { server with point := point }

/-- The terms of the response: the client's transaction ID, the smaller block
count, the smaller packet length and the larger timeout. -/
def responsePacket (server : DDServer) : TransactionPacket :=
  (TransactionPacket.generateCRC
    { header :=
        { msgType := .response
          transactionID := server.clientConfig.transactionID
          maxBlocksPerTransaction :=
            if server.clientConfig.maxBlocksPerTransaction <
                server.serverConfig.maxBlocksPerTransaction then
              server.clientConfig.maxBlocksPerTransaction
            else
              server.serverConfig.maxBlocksPerTransaction
          maxPacketlen :=
            if server.clientConfig.maxPacketlen <
                server.serverConfig.maxPacketlen then
              server.clientConfig.maxPacketlen
            else
              server.serverConfig.maxPacketlen
          maxACKTimeout :=
            if server.clientConfig.maxACKTimeout >
                server.serverConfig.maxACKTimeout then
              server.clientConfig.maxACKTimeout
            else
              server.serverConfig.maxACKTimeout } }).2

/-- The `RESPONSE` body up to the loop that sends the response. -/
def enterResponse (server : DDServer) (env : Environment) :
    DDServer × List Event :=
  let response := server.responsePacket
  let server :=
    { server with
      clientConfig := server.clientConfig.setTerms
        response.header.maxACKTimeout
        response.header.maxBlocksPerTransaction
        response.header.maxPacketlen
        response.header.transactionID }
  let maxStorageReadSizeReq :=
    sizeSub server.maxPacketSize BlockTxRxPacket.getHeaderSize
  let maxStorageReadSizeReq :=
    sizeMul maxStorageReadSizeReq
      server.clientConfig.maxBlocksPerTransaction.toNat
  match server.consumerCB, server.internalBuffer with
  | true, some target =>
      let contents := env.stored maxStorageReadSizeReq
      let server :=
        { server with
          heap := server.heap.write target contents
          internalBufferLen := contents.length }
      let read := [Event.storageRead target maxStorageReadSizeReq contents]
      if contents.length ≠ 0 then
        (server.goto (.body (.responseSend response)), read)
      else
        (server.goto (.leave .terminate), read)
  | _, _ => (server.goto (.leave .terminate), [])

/-- The number of bytes the `BLOCK` body puts into its next packet. -/
def dataSizeCopiedToPacket (server : DDServer) : Nat :=
  let room := sizeSub server.maxPacketSize BlockTxRxPacket.getHeaderSize
  if server.internalBufferLen < room then server.internalBufferLen else room

/-- The `BLOCK` body's packet with its frame number and payload. -/
def filledPacket (server : DDServer) : BlockTxRxPacket :=
  let packet : BlockTxRxPacket :=
    { header := { msgType := .blockTransfer } }
  let packet :=
    { packet with
      header :=
        packet.header.setFrameNumber (server.internalCounter.setWidth 8) }
  match server.internalBuffer with
  | some source =>
      (packet.setBuffer (server.heap source.block) (some source.offset)
        (.ofNat 8 server.dataSizeCopiedToPacket)).2
  | none =>
      (packet.setBuffer (fun _ => 0) none
        (.ofNat 8 server.dataSizeCopiedToPacket)).2

/-- Whether the `BLOCK` body marks its packet as the last one. -/
def lastFrame (server : DDServer) : ContinueBit :=
  let frameCnt : FrameNumber := server.internalCounter.setWidth 8
  if frameCnt ≥ server.clientConfig.maxBlocksPerTransaction ∨
      server.internalBufferLen - server.dataSizeCopiedToPacket ≤ 0 then
    .terminateTransfer
  else
    .continueTransfer

/-- The packet the `BLOCK` body builds. -/
def blockPacket (server : DDServer) : BlockTxRxPacket :=
  let packet := server.filledPacket
  (BlockTxRxPacket.generateCRC
    { packet with
      header := packet.header.setContinueBit server.lastFrame }).2

/-- The copy that building the packet makes from the staging buffer. -/
def copyEvent (server : DDServer) : List Event :=
  match server.internalBuffer with
  | some source =>
      if 0#8 < BitVec.ofNat 8 server.dataSizeCopiedToPacket then
        [.payloadCopied source
          (BitVec.ofNat 8 server.dataSizeCopiedToPacket).toNat]
      else
        []
  | none => []

/-- The `BLOCK` body up to the loop that sends the block. -/
def enterBlock (server : DDServer) : DDServer × List Event :=
  let size := server.dataSizeCopiedToPacket
  ({ server with
      internalCounter := server.internalCounter + 1
      internalBufferLen := server.internalBufferLen - size
      internalBuffer :=
        server.internalBuffer.map fun source => source.advance size
      point := .body (.blockSend server.blockPacket) },
    server.copyEvent)

/-- The state bodies up to their first callback. -/
def enterBody (server : DDServer) (env : Environment) (state : FsmState) :
    DDServer × List Event :=
  let begun := [Event.body state server.internalBuffer]
  match state with
  | .idle =>
      ({ server with
          isTransferSuccess := false
          clientConfig := server.clientConfig.setTerms 0 0 0 0
          internalBufferLen := 0
          isBusy := false
          point := .top .readNext }, begun)
  | .request => (server.goto (.body (.requestReceive {})), begun)
  | .response =>
      let (server, events) := server.enterResponse env
      (server, begun ++ events)
  | .initiateBlock => (server.goto (.body (.initiateReceive {})), begun)
  | .block =>
      let (server, events) := server.enterBlock
      (server, begun ++ events)
  | .terminate =>
      ({ server with
          isTransferSuccess := false
          clientConfig := server.clientConfig.setTerms 0 0 0 0
          internalBufferLen := 0
          point := .leave .request },
        if server.notifyCB then
          begun ++ [.notified server.isTransferSuccess]
        else begun)

/-- The `BLOCK` body behind the loop that waits for the acknowledgement. -/
def handleAck
    (server : DDServer)
    (recvLen : Nat)
    (ackPacket : TransactionPacket)
    (env : Environment) : DDServer × List Event :=
  if recvLen ≠ 0 then
    if server.consumerCB = true ∧
        ackPacket.header.transactionID =
          server.clientConfig.transactionID then
      let reported := env.erased server.internalBufferLen
      let event := Event.storageErased server.internalBufferLen reported
      if reported = server.internalBufferLen then
        ({ server with
            isTransferSuccess := true, point := .leave .terminate }, [event])
      else
        (server.goto (.leave .terminate), [event])
    else
      (server.goto (.leave .terminate), [])
  else
    (server.goto (.leave .terminate), [])

/-- The state bodies from their first callback on. -/
def stepBody (server : DDServer) (env : Environment) :
    ServerBody → DDServer × List Event
  | .requestReceive request =>
      -- This loop has no timer.
      match server.receive request .request env with
      | (0, request) =>
          (server.goto (.body (.requestReceive request)), server.pollEvent)
      | (_, request) =>
          ({ server with
              clientConfig := server.clientConfig.setTerms
                request.header.maxACKTimeout
                request.header.maxBlocksPerTransaction
                request.header.maxPacketlen
                request.header.transactionID
              point := .leave .response },
            server.pollEvent ++ [.received request.header])
  | .responseSend response =>
      match server.sendLoop response env with
      | (none, response, events) =>
          (server.goto (.body (.responseSend response)), events)
      | (some true, _, events) => (server.goto (.leave .initiateBlock), events)
      | (some false, _, events) => (server.goto (.leave .terminate), events)
  | .initiateReceive initiate =>
      match server.receiveLoop initiate .initiateBlockTransfer env with
      | (none, initiate, events) =>
          (server.goto (.body (.initiateReceive initiate)), events)
      | (some recvLen, initiate, events) =>
          if recvLen ≠ 0 ∧
              server.clientConfig.transactionID =
                initiate.header.transactionID then
            ({ server with
                internalCounter := 1, point := .leave .block }, events)
          else
            (server.goto (.leave .terminate), events)
  | .blockSend blockDataPacket =>
      match server.sendBlockLoop blockDataPacket env with
      | (none, events) =>
          (server.goto (.body (.blockSend blockDataPacket)), events)
      | (some true, events) =>
          match blockDataPacket.header.getContinueBit with
          | .terminateTransfer =>
              (server.goto (.body (.ackReceive {})), events)
          | .continueTransfer => (server.goto (.body .blockContinue), events)
      | (some false, events) => (server.goto (.leave .terminate), events)
  | .blockContinue =>
      (server.goto (.leave (server.getCurrentFSMState env)), [])
  | .ackReceive ackPacket =>
      match server.receiveLoop ackPacket .blockAck env with
      | (none, ackPacket, events) =>
          (server.goto (.body (.ackReceive ackPacket)), events)
      | (some recvLen, ackPacket, events) =>
          let (server, handled) := server.handleAck recvLen ackPacket env
          (server, events ++ handled)

/-- One step of the thread that runs `FSMLoop`. -/
def fsmStep (server : DDServer) (env : Environment) : DDServer × List Event :=
  match server.point with
  | .top at_ =>
      match server.dispatch env at_ with
      | (dump, .inl next) =>
          ({ server with toDataDump := dump, point := .top next }, [])
      | (dump, .inr state) =>
          ({ server with toDataDump := dump, point := .enter state }, [])
  | .enter state => server.enterBody env state
  | .body at_ => server.stepBody env at_
  | .leave target =>
      ({ server with
          toDataDump := server.setNextFSMState target env
          point := .top .readNext }, [])

/-- `startServer`. -/
def startServer (server : DDServer) (env : Environment) : Bool × DDServer :=
  if server.isBusy = false then
    (true, { server with toDataDump := server.setNextFSMState .request env })
  else
    (false, server)

/-- One step of the thread that calls `stopServer`. -/
def stopServer (server : DDServer) (env : Environment) :
    DDServer × List Event :=
  match server.stopper with
  | .outside => ({ server with stopper := .waiting }, [])
  | .waiting =>
      if server.getCurrentFSMState env ≠ .request then (server, [])
      else ({ server with stopper := .storing }, [])
  | .storing =>
      ({ server with
          toDataDump := server.setNextFSMState .idle env
          stopper := .outside }, [.serverStopped])

/-- What can happen to a server. -/
inductive Action
  /-- A step of `FSMLoop`. -/
  | fsm (env : Environment)
  /-- A call of `startServer` by the application. -/
  | startServer (env : Environment)
  /-- A step of the application's call of `stopServer`. -/
  | stopServer (env : Environment)

/-- Every lock is acquired within its millisecond. -/
def Action.Acquires : Action → Prop
  | .fsm env | .startServer env | .stopServer env => env.lockAcquired = true

instance : (action : Action) → Decidable action.Acquires
  | .fsm env | .startServer env | .stopServer env =>
      inferInstanceAs (Decidable (env.lockAcquired = true))

/-- One action on a server. -/
def step (server : DDServer) : Action → DDServer × List Event
  | .fsm env => server.fsmStep env
  | .startServer env =>
      match server.startServer env with
      | (true, server) => (server, [.serverStarted])
      | (false, server) => (server, [])
  | .stopServer env => server.stopServer env

/-- The server against an arbitrary environment. -/
def machine : Machine DDServer Action Event := ⟨step⟩

end DDServer

end DataDumpProtocol
