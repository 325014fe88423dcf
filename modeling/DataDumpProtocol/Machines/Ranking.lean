import DataDumpProtocol.Machines.Heading

/-!
# How far `FSMLoop` is from the next state body

The part of `FSMLoop` before the state bodies has no loop.  So a thread that
leaves a body is at the next one after seven steps at most.  When its locks are
acquired these steps leave its site, and a party that gets from site to site
along a phase that falls has a rank that falls with every step.
-/

namespace DataDumpProtocol

/-- The number of steps to the `switch` at most. -/
def Dispatch.stepsLeft : Dispatch → Nat
  | .readNext => 6
  | .readCurrent _ => 5
  | .reloadNext => 4
  | .storeCurrent _ => 3
  | .updateStatus => 2
  | .select => 1

/-- The number of steps to the next state body at most. -/
def Point.stepsLeft {Body : Type} : Point Body → Nat
  | .top at_ => at_.stepsLeft
  | .enter _ | .body _ => 0
  | .leave _ => 7

theorem Point.stepsLeft_le {Body : Type} (point : Point Body) :
    point.stepsLeft ≤ 7 := by
  cases point with
  | top at_ => cases at_ <;> simp [stepsLeft, Dispatch.stepsLeft]
  | enter | body | leave => simp [stepsLeft]

/-! ## Loops that a timeout ends -/

namespace DataDump

variable {dump : DataDump} {env : Environment}

theorem sendLoop_of_expired
    (expired : env.timerExpired = true)
    (packet : TransactionPacket) :
    (dump.sendLoop packet env).1 ≠ none := by
  simp [sendLoop, expired]

theorem sendBlockLoop_of_expired
    (expired : env.timerExpired = true)
    (packet : BlockTxRxPacket) :
    (dump.sendBlockLoop packet env).1 ≠ none := by
  simp [sendBlockLoop, expired]

theorem receiveLoop_of_expired
    (expired : env.timerExpired = true)
    (packet : TransactionPacket)
    (msgType : MsgType) :
    (dump.receiveLoop packet msgType env).1 ≠ none := by
  simp only [receiveLoop, expired, Bool.true_eq_false, and_false, if_false]
  split <;> simp

theorem receiveBlockLoop_of_expired
    (expired : env.timerExpired = true)
    (packet : BlockTxRxPacket)
    (msgType : MsgType) :
    (dump.receiveBlockLoop packet msgType env).1 ≠ none := by
  simp only [receiveBlockLoop, expired, Bool.true_eq_false, and_false,
    if_false]
  split <;> simp

end DataDump

/-! ## Ranks -/

namespace Party

variable {Body : Type} {party party' : Party Body} {env : Environment}

/-- The steps of a thread that is in this phase, each phase being of eight. -/
def rank (party : Party Body) (phase : Nat) : Nat :=
  8 * phase + party.point.stepsLeft

theorem rank_le (party : Party Body) (phase : Nat) :
    party.rank phase ≤ 8 * phase + 7 :=
  Nat.add_le_add_left party.point.stepsLeft_le _

/-- A thread that gets to an earlier phase has fewer steps left, wherever it is
there. -/
theorem rank_lt_of_phase
    {phase phase' : Nat}
    (less : phase' < phase) :
    party'.rank phase' < party.rank phase := by
  have within := party'.rank_le phase'
  unfold rank at within ⊢
  omega

theorem Shell.stepsLeft_lt (shell : party.Shell env party') :
    party'.point.stepsLeft < party.point.stepsLeft := by
  cases shell with
  | leave here => simp [here, Point.stepsLeft, Dispatch.stepsLeft]
  | dispatch here dispatches =>
      rw [here]
      cases dispatches <;>
        simp [Point.ofDispatch, Point.stepsLeft, Dispatch.stepsLeft]

/-- The shell has fewer steps left after each of them. -/
theorem Shell.rank_lt
    (shell : party.Shell env party')
    (phase : Nat) :
    party'.rank phase < party.rank phase :=
  Nat.add_lt_add_left shell.stepsLeft_lt _

end Party

end DataDumpProtocol
