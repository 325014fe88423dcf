import DataDumpProtocol.Library.Machine

/-!
# Undefined behaviour

Some of what a machine does can be a fault, such as an access outside an
allocation.  Behind a fault the program is no longer the machine that was
modelled, and may do anything at all.  A run in which no fault was observed is
still a run of the machine.
-/

namespace Machine

variable {State Answer Observation : Type}

/-- The machine, which may also end up in any state and show anything. -/
def orAnything
    (machine : Machine State Answer Observation) :
    Machine State (Answer ⊕ State × List Observation) Observation where
  step state
    | .inl answer => machine.step state answer
    | .inr result => result

/-- Only what `admits` allows can happen, until a fault was observed. -/
def AdmitsBehind
    (faults : Observation → Prop)
    (admits : State → List Observation → Answer → Prop)
    (state : State)
    (trace : List Observation) :
    Answer ⊕ State × List Observation → Prop
  | .inl answer => admits state trace answer
  | .inr _ => ∃ observation ∈ trace, faults observation

variable {machine : Machine State Answer Observation}
variable {faults : Observation → Prop}
variable {admits : State → List Observation → Answer → Prop}
variable {start state : State} {trace : List Observation}

/-- A run without a fault is a run of the machine. -/
theorem Reaches.defined
    (reaches : machine.orAnything.Reaches (AdmitsBehind faults admits) start
      state trace)
    (faultless : ∀ observation ∈ trace, ¬faults observation) :
    machine.Reaches admits start state trace := by
  induction reaches with
  | start => exact .start
  | @step state trace answer _ admitted inductionHypothesis =>
      have before := fun observation present =>
        faultless observation (List.mem_append_left _ present)
      have reached := inductionHypothesis before
      cases answer with
      | inl answer => exact reached.step admitted
      | inr result =>
          obtain ⟨observation, present, fault⟩ := admitted
          exact absurd fault (before observation present)

/-- The machine may always go on as it does without faults. -/
theorem Reaches.orAnything
    (reaches : machine.Reaches admits start state trace) :
    machine.orAnything.Reaches (AdmitsBehind faults admits) start state
      trace := by
  induction reaches with
  | start => exact .start
  | @step state trace answer _ admitted inductionHypothesis =>
      have admitted : AdmitsBehind faults admits state trace (.inl answer) :=
        admitted
      exact inductionHypothesis.step admitted

end Machine
