import DataDumpProtocol.Series.EndToEnd

/-!
# The test program

`DDTest` joins a server and a client by two queues and has the client fetch the
server's storage ten times.  Two threads run `FSMLoop`, and the main thread
starts the transfers: `clientNotify`, which the client's thread calls, sets
`startNextTransfer`, and the main thread clears it behind its call of
`startNewTransfer`.  Every access to a variable that threads share is a step of
its own.
-/

namespace DataDumpProtocol

/-- `TRANSFER_SIZE`. -/
def transferSize : Nat := 256

/-- The program points of the main thread. -/
inductive MainPoint
  /-- Before the loop that fills the storage. -/
  | filling
  /-- Before `startServer`. -/
  | starting
  /-- Before `startNextTransfer` is read. -/
  | looping
  /-- Before `startNewTransfer`. -/
  | calling
  /-- Before `TransactionCount++`. -/
  | counting
  /-- Before `startNextTransfer` is cleared. -/
  | clearing
  /-- In the `sleep` in front of the loop's condition. -/
  | sleeping
  /-- Behind the loop, where the destructor of a joinable thread terminates the
  process. -/
  | ended
  deriving DecidableEq

/-- The global variables of the program, and where its threads are.  The
channels are `serverInChannel` and `serverOutChannel`. -/
structure DDTest where
  network : Network
  serverStorage : Fin transferSize → Byte := fun _ => 0
  startNextTransfer : Bool := true
  transactionCount : Nat := 0
  main : MainPoint := .filling

namespace DDTest

/-- `test_server`. -/
def testServer : Parameters where
  transactionID := 0x0000
  blocksPerTransaction := 35
  maxPacketlen := 20
  ackTimeout := 5

/-- `test_client`, which is given no storage. -/
def testClient : Parameters where
  transactionID := 0x1234
  blocksPerTransaction := 35
  maxPacketlen := 20
  ackTimeout := 5
  storageRead := false

/-- `clientStorage`. -/
def clientStorage : Pointer := ⟨0, 0⟩

/-- The program before any thread has taken a step. -/
def new (clientHeap serverHeap : Heap) : DDTest where
  network := .new testClient testServer clientHeap serverHeap

/-! ## Callbacks -/

/-- `serverSend` and `clientSend`, each with its queue. -/
def queueSend (queue : List Frame) (bytes : List Byte) : Bool :=
  if bytes.length ≠ 0 then decide (queue.length < 20) else false

/-- What the queue answers to the frame that a step sends, if it sends one. -/
def sendAnswer (queue : List Frame) (events : List Event) : Bool :=
  events.all fun event =>
    match event with
    | .sent bytes _ => queueSend queue bytes
    | _ => true

/-- `serverStorageReadcb`, which pays no attention to whether it is to erase. -/
def serverStorageReadcb
    (test : DDTest)
    (maxSize : Nat)
    (_eraseDataRead : Bool) : List Byte :=
  let maxSize := if transferSize < maxSize then transferSize else maxSize
  (List.ofFn test.serverStorage).take maxSize

/-- The answers to the server's thread: locks and timers are as they may be,
and the callbacks are those of the program. -/
def serverEnv (test : DDTest) (env : Environment) : Environment :=
  let env :=
    { env with
      incoming := (Channel.heard test.network.toServer true).bytes
      stored := fun maxSize => test.serverStorageReadcb maxSize false
      erased := fun maxSize => (test.serverStorageReadcb maxSize true).length
      sendAccepted := true }
  { env with
    sendAccepted :=
      sendAnswer test.network.toClient (test.network.server.fsmStep env).2 }

/-- The answers to the client's thread. -/
def clientEnv (test : DDTest) (env : Environment) : Environment :=
  let env :=
    { env with
      incoming := (Channel.heard test.network.toClient true).bytes
      sendAccepted := true }
  { env with
    sendAccepted :=
      sendAnswer test.network.toServer (test.network.client.fsmStep env).2 }

/-- The calls of `clientNotify` among these observations. -/
def clientNotify
    (startNextTransfer : Bool)
    (observations : List Observation) : Bool :=
  decide (.client (.notified true) ∈ observations) || startNextTransfer

/-! ## Steps -/

/-- One step of the main thread, in `DDTest`. -/
def mainStep (test : DDTest) (env : Environment) : DDTest × List Observation :=
  match test.main with
  | .filling =>
      ({ test with
          serverStorage := fun i => .ofNat 8 i
          main := .starting }, [])
  | .starting =>
      let (network, observations) :=
        test.network.step (.server (.startServer env) true)
      ({ test with
          network := network
          main :=
            if (test.network.server.startServer env).1 then .looping
            else .ended }, observations)
  | .looping =>
      ({ test with
          main := if test.startNextTransfer then .calling else .sleeping }, [])
  | .calling =>
      let (network, observations) :=
        test.network.step
          (.client (.startNewTransfer (some clientStorage) transferSize env)
            true)
      ({ test with
          network := network
          main :=
            if (test.network.client.startNewTransfer (some clientStorage)
                transferSize env).1 then .counting
            else .sleeping }, observations)
  | .counting =>
      ({ test with
          transactionCount := test.transactionCount + 1
          main := .clearing }, [])
  | .clearing =>
      ({ test with startNextTransfer := false, main := .sleeping }, [])
  | .sleeping =>
      ({ test with
          main := if test.transactionCount < 10 then .looping else .ended }, [])
  | .ended => (test, [])

/-- What can happen in the program: a step of one of its threads. -/
inductive Action
  | main (env : Environment)
  | serverTaskloop (env : Environment)
  | clientTaskloop (env : Environment)

/-- One step of the program. -/
def step (test : DDTest) (action : Action) : DDTest × List Observation :=
  if test.main = .ended then
    (test, [])
  else
    match action with
    | .main env => test.mainStep env
    | .serverTaskloop env =>
        let (network, observations) :=
          test.network.step (.server (.fsm (test.serverEnv env)) true)
        ({ test with network := network }, observations)
    | .clientTaskloop env =>
        let (network, observations) :=
          test.network.step (.client (.fsm (test.clientEnv env)) true)
        ({ test with
            network := network
            startNextTransfer :=
              clientNotify test.startNextTransfer observations },
          observations)

/-- The program with its threads in any order. -/
def machine : Machine DDTest Action Observation := ⟨step⟩

/-- Locks are acquired, and timers start and do not expire. -/
def Action.Steady : Action → Prop
  | .main env => env.lockAcquired = true
  | .serverTaskloop env | .clientTaskloop env => env.Steady

instance : (action : Action) → Decidable action.Steady
  | .main env => inferInstanceAs (Decidable (env.lockAcquired = true))
  | .serverTaskloop env | .clientTaskloop env =>
      inferInstanceAs (Decidable env.Steady)

/-! ## What one step can do -/

/-- The network after the main thread has called `startServer`. -/
def started (test : DDTest) (env : Environment) : Network × List Observation :=
  test.network.step (.server (.startServer env) true)

/-- The network after the main thread has called `startNewTransfer`. -/
def called (test : DDTest) (env : Environment) : Network × List Observation :=
  test.network.step
    (.client (.startNewTransfer (some clientStorage) transferSize env) true)

/-- The network after a step of the server's thread. -/
def served (test : DDTest) (env : Environment) : Network × List Observation :=
  test.network.step (.server (.fsm (test.serverEnv env)) true)

/-- The network after a step of the client's thread. -/
def fetched (test : DDTest) (env : Environment) : Network × List Observation :=
  test.network.step (.client (.fsm (test.clientEnv env)) true)

/-- What an action can do to the program. -/
inductive Steps (test : DDTest) :
    Action → DDTest → List Observation → Prop
  | ends {action : Action} (here : test.main = .ended) :
      Steps test action test []
  | fills {env : Environment} (here : test.main = .filling) :
      Steps test (.main env)
        { test with
          serverStorage := fun i => .ofNat 8 i
          main := .starting } []
  | starts {env : Environment} {next : MainPoint}
      (here : test.main = .starting)
      (goesOn : next = .looping ∨
        next = .ended ∧ test.network.server.isBusy = true) :
      Steps test (.main env)
        { test with network := (test.started env).1, main := next }
        (test.started env).2
  | reads {env : Environment} (here : test.main = .looping) :
      Steps test (.main env)
        { test with
          main := if test.startNextTransfer then .calling else .sleeping } []
  | calls {env : Environment} (here : test.main = .calling)
      (resting : test.network.client.isBusy = false) :
      Steps test (.main env)
        { test with network := (test.called env).1, main := .counting }
        (test.called env).2
  | refused {env : Environment} (here : test.main = .calling) :
      Steps test (.main env) { test with main := .sleeping } []
  | counts {env : Environment} (here : test.main = .counting) :
      Steps test (.main env)
        { test with
          transactionCount := test.transactionCount + 1
          main := .clearing } []
  | clears {env : Environment} (here : test.main = .clearing) :
      Steps test (.main env)
        { test with startNextTransfer := false, main := .sleeping } []
  | wakes {env : Environment} (here : test.main = .sleeping) :
      Steps test (.main env)
        { test with
          main := if test.transactionCount < 10 then .looping else .ended } []
  | serves {env : Environment} (running : test.main ≠ .ended) :
      Steps test (.serverTaskloop env)
        { test with network := (test.served env).1 } (test.served env).2
  | fetches {env : Environment} (running : test.main ≠ .ended) :
      Steps test (.clientTaskloop env)
        { test with
          network := (test.fetched env).1
          startNextTransfer :=
            clientNotify test.startNextTransfer (test.fetched env).2 }
        (test.fetched env).2

/-- A busy client refuses, and nothing changes. -/
theorem called_of_busy
    {test : DDTest}
    (busy : test.network.client.isBusy = true)
    (env : Environment) :
    test.called env = (test.network, []) := by
  have refused : test.network.client.step
      (.startNewTransfer (some clientStorage) transferSize env) =
        (test.network.client, []) := by
    simp [DDClient.step, DDClient.startNewTransfer, busy]
  simp [called, Network.step, DDClient.Action.hearing, refused,
    Network.afterClient, Channel.posted, Channel.taken]

theorem mainSteps (test : DDTest) (env : Environment) :
    test.Steps (.main env) (test.mainStep env).1 (test.mainStep env).2 := by
  cases here : test.main with
  | filling =>
      simp only [mainStep, here]
      exact .fills here
  | starting =>
      simp only [mainStep, here]
      refine .starts here ?_
      cases busy : test.network.server.isBusy with
      | false => simp [DDServer.startServer, busy]
      | true => simp [DDServer.startServer, busy]
  | looping =>
      simp only [mainStep, here]
      exact .reads here
  | calling =>
      simp only [mainStep, here]
      cases busy : test.network.client.isBusy with
      | false =>
          have accepted : (test.network.client.startNewTransfer
              (some clientStorage) transferSize env).1 = true := by
            simp [DDClient.startNewTransfer, busy, transferSize]
          rw [if_pos accepted]
          exact .calls here busy
      | true =>
          have refused : (test.network.client.startNewTransfer
              (some clientStorage) transferSize env).1 = false := by
            simp [DDClient.startNewTransfer, busy]
          have same := called_of_busy busy env
          rw [called] at same
          rw [same, refused]
          exact .refused here
  | counting =>
      simp only [mainStep, here]
      exact .counts here
  | clearing =>
      simp only [mainStep, here]
      exact .clears here
  | sleeping =>
      simp only [mainStep, here]
      exact .wakes here
  | ended =>
      simp only [mainStep, here]
      exact .ends here

theorem steps (test : DDTest) (action : Action) :
    test.Steps action (test.step action).1 (test.step action).2 := by
  unfold step
  split
  next here => exact .ends here
  next running =>
    cases action with
    | main env => exact test.mainSteps env
    | serverTaskloop env => exact .serves running
    | clientTaskloop env => exact .fetches running

end DDTest

end DataDumpProtocol
