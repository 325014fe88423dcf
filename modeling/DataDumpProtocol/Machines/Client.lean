import DataDumpProtocol.Library.Machine
import DataDumpProtocol.Machines.Shell

/-!
# The client

`DDClient`: its constructor, `startNewTransfer` and the state bodies of its
`FSMLoop`.
-/

namespace DataDumpProtocol

/-- The program points inside the client's state bodies, with the packets
that are live there. -/
inductive ClientBody
  /-- `REQUEST`: in the loop that sends the request. -/
  | requestSend (request : TransactionPacket)
  /-- `RESPONSE`: in the loop that waits for the response. -/
  | responseReceive (response : TransactionPacket)
  /-- `INITIATE_BLOCK`: in the loop that sends the initiate message. -/
  | initiateSend (initiate : TransactionPacket)
  /-- `BLOCK`: in the loop that waits for a block. -/
  | blockReceive (blockDataPacket : BlockTxRxPacket)
  /-- `BLOCK`: before `getCurrentFSMState` when more blocks follow. -/
  | blockContinue
  /-- `BLOCK`: in the loop that sends the acknowledgement. -/
  | ackSend (ackPacket : TransactionPacket)
  /-- `BLOCK`: in the loop that sends the negative acknowledgement. -/
  | ackNotSend (ackPacket : TransactionPacket)
  deriving DecidableEq

/-- `DDClient`. -/
abbrev DDClient := Party ClientBody

namespace DDClient

/-- The constructor. -/
def new (parameters : Parameters) (heap : Heap) : DDClient where
  maxPacketSize := parameters.maxPacketlen.toNat
  sendCB := parameters.sendCB
  recvCB := parameters.recvCB
  consumerCB := parameters.storageRead
  notifyCB := parameters.appStatusCB
  clientConfig := parameters.config
  heap := heap

/-- `startNewTransfer`. -/
def startNewTransfer
    (client : DDClient)
    (buffer : Option Pointer)
    (size : Nat)
    (env : Environment) : Bool × DDClient :=
  match buffer with
  | none => (false, client)
  | some pointer =>
      if size ≤ 0 then
        (false, client)
      else if client.isBusy = true then
        (false, client)
      else
        let client :=
          { client with
            internalBuffer := some pointer, internalBufferLen := size }
        (true,
          { toDataDump := client.setNextFSMState .request env
            point := client.point })

/-- The packet a state body builds: terms of a configuration and a type. -/
def termsPacket (msgType : MsgType) (config : TranscationHeader) :
    TransactionPacket :=
  (TransactionPacket.generateCRC
    { header :=
        { msgType := msgType
          maxACKTimeout := config.maxACKTimeout
          maxBlocksPerTransaction := config.maxBlocksPerTransaction
          maxPacketlen := config.maxPacketlen
          transactionID := config.transactionID } }).2

/-- The acknowledgement a state body builds. -/
def ackPacket (msgType : MsgType) (transactionId : TransactionId) :
    TransactionPacket :=
  (TransactionPacket.generateCRC
    { header := { msgType := msgType, transactionID := transactionId } }).2

/-- The state bodies up to their first callback. -/
def enterBody (client : DDClient) (env : Environment) (state : FsmState) :
    DDClient × List Event :=
  let begun := [Event.body state client.internalBuffer]
  match state with
  | .idle => ({ client with isBusy := false, point := .top .readNext }, begun)
  | .request =>
      if env.timerStarted then
        (client.goto
          (.body (.requestSend (termsPacket .request client.clientConfig))),
          begun)
      else
        (client.goto (.leave .terminate), begun)
  | .response => (client.goto (.body (.responseReceive {})), begun)
  | .initiateBlock =>
      if client.serverConfig.transactionID ≠ 0 then
        (client.goto
          (.body (.initiateSend
            (termsPacket .initiateBlockTransfer client.serverConfig))),
          begun)
      else
        (client.goto (.leave .terminate), begun)
  | .block => (client.goto (.body (.blockReceive {})), begun)
  | .terminate =>
      ({ client with
          isTransferSuccess := false
          serverConfig := client.serverConfig.setTerms 0 0 0 0
          internalBuffer := none
          internalBufferLen := 0
          point := .leave .idle },
        if client.notifyCB then
          begun ++ [.notified client.isTransferSuccess]
        else begun)

/-- Store a received block, if there is room for it. -/
def storeBlock
    (client : DDClient)
    (blockDataPacket : BlockTxRxPacket)
    (env : Environment) : Option (DDClient × Event) :=
  let receivedBlockDataSize := blockDataPacket.header.dataBufferSize.toNat
  match client.internalBuffer, blockDataPacket.buffer with
  | some target, some _ =>
      if receivedBlockDataSize ≤ client.internalBufferLen then
        let payload :=
          blockDataPacket.copiedFromBuffer env.beyond receivedBlockDataSize
        some
          ({ client with
              heap := client.heap.write target payload
              internalBuffer := some (target.advance receivedBlockDataSize)
              internalBufferLen :=
                client.internalBufferLen - receivedBlockDataSize },
            .blockStored target payload)
      else
        none
  | _, _ => none

/-- The `BLOCK` body behind the loop that waits for a block. -/
def handleBlock
    (client : DDClient)
    (recvLen : Nat)
    (blockDataPacket : BlockTxRxPacket)
    (env : Environment) : DDClient × List Event :=
  let stored :=
    if 0 < recvLen then client.storeBlock blockDataPacket env else none
  match stored with
  | some (client, event) =>
      match blockDataPacket.header.getContinueBit with
      | .terminateTransfer =>
          (client.goto (.body (.ackSend
            (ackPacket .blockAck client.serverConfig.transactionID))),
            [event])
      | .continueTransfer => (client.goto (.body .blockContinue), [event])
  | none =>
      (client.goto (.body (.ackNotSend
        (ackPacket .blockAckNot client.serverConfig.transactionID))), [])

/-- The state bodies from their first callback on. -/
def stepBody (client : DDClient) (env : Environment) :
    ClientBody → DDClient × List Event
  | .requestSend request =>
      match client.sendLoop request env with
      | (none, request, events) =>
          (client.goto (.body (.requestSend request)), events)
      | (some true, _, events) => (client.goto (.leave .response), events)
      | (some false, _, events) => (client.goto (.leave .terminate), events)
  | .responseReceive response =>
      match client.receiveLoop response .response env with
      | (none, response, events) =>
          (client.goto (.body (.responseReceive response)), events)
      | (some recvLen, response, events) =>
          if 0 < recvLen then
            ({ client with
                serverConfig := client.serverConfig.setTerms
                  response.header.maxACKTimeout
                  response.header.maxBlocksPerTransaction
                  response.header.maxPacketlen
                  response.header.transactionID
                point := .leave .initiateBlock }, events)
          else
            (client.goto (.leave .terminate), events)
  | .initiateSend initiate =>
      match client.sendLoop initiate env with
      | (none, initiate, events) =>
          (client.goto (.body (.initiateSend initiate)), events)
      | (some true, _, events) => (client.goto (.leave .block), events)
      | (some false, _, events) => (client.goto (.leave .terminate), events)
  | .blockReceive blockDataPacket =>
      match client.receiveBlockLoop blockDataPacket .blockTransfer env with
      | (none, blockDataPacket, events) =>
          (client.goto (.body (.blockReceive blockDataPacket)), events)
      | (some recvLen, blockDataPacket, events) =>
          let (client, handled) :=
            client.handleBlock recvLen blockDataPacket env
          (client, events ++ handled)
  | .blockContinue =>
      (client.goto (.leave (client.getCurrentFSMState env)), [])
  | .ackSend ackPacket =>
      match client.sendLoop ackPacket env with
      | (none, ackPacket, events) =>
          (client.goto (.body (.ackSend ackPacket)), events)
      | (some true, _, events) =>
          ({ client with
              isTransferSuccess := true, point := .leave .terminate }, events)
      | (some false, _, events) => (client.goto (.leave .terminate), events)
  | .ackNotSend ackPacket =>
      match client.sendLoop ackPacket env with
      | (none, ackPacket, events) =>
          (client.goto (.body (.ackNotSend ackPacket)), events)
      | (some _, _, events) => (client.goto (.leave .terminate), events)

/-- One step of the thread that runs `FSMLoop`. -/
def fsmStep (client : DDClient) (env : Environment) : DDClient × List Event :=
  match client.point with
  | .top at_ =>
      match client.dispatch env at_ with
      | (dump, .inl next) => ({ toDataDump := dump, point := .top next }, [])
      | (dump, .inr state) =>
          ({ toDataDump := dump, point := .enter state }, [])
  | .enter state => client.enterBody env state
  | .body at_ => client.stepBody env at_
  | .leave target =>
      ({ toDataDump := client.setNextFSMState target env
         point := .top .readNext }, [])

/-- What can happen to a client. -/
inductive Action
  /-- A step of `FSMLoop`. -/
  | fsm (env : Environment)
  /-- A call of `startNewTransfer` by the application. -/
  | startNewTransfer (buffer : Option Pointer) (size : Nat) (env : Environment)

/-- Every lock is acquired within its millisecond. -/
def Action.Acquires : Action → Prop
  | .fsm env | .startNewTransfer _ _ env => env.lockAcquired = true

instance : (action : Action) → Decidable action.Acquires
  | .fsm env | .startNewTransfer _ _ env =>
      inferInstanceAs (Decidable (env.lockAcquired = true))

/-- One action on a client. -/
def step (client : DDClient) : Action → DDClient × List Event
  | .fsm env => client.fsmStep env
  | .startNewTransfer buffer size env =>
      match buffer, client.startNewTransfer buffer size env with
      | some pointer, (true, client) =>
          (client, [.transferStarted pointer size])
      | _, (_, client) => (client, [])

/-- The client against an arbitrary environment. -/
def machine : Machine DDClient Action Event := ⟨step⟩

end DDClient

end DataDumpProtocol
