import Mathlib.Data.List.Induction

/-!
# Machines driven by an environment

A machine takes one atomic step at a time.  The environment answers whatever
the step asks of it, and the step makes some observations.  Runs are collected
by `Reaches`, whose parameter `admits` says which answers a run may contain,
given the state before the step and everything observed so far.

Properties of a run are stated on its trace: `Trace.Every` asks that every
observation is right for the trace before it.
-/

/-- A deterministic machine with environment answers and observations. -/
structure Machine (State Answer Observation : Type) where
  /-- One atomic step. -/
  step : State → Answer → State × List Observation

namespace Trace

variable {Observation : Type}

/-- Every observation of a trace is right for the observations before it. -/
def Every
    (right : List Observation → Observation → Prop)
    (trace : List Observation) : Prop :=
  ∀ before observation after,
    trace = before ++ observation :: after → right before observation

theorem every_nil (right : List Observation → Observation → Prop) :
    Every right [] := by
  intro before observation after split
  simp at split

/-- The first observation is right for no observations before it, and the
others for it and those behind it. -/
theorem every_cons
    {right : List Observation → Observation → Prop}
    {first : Observation}
    {trace : List Observation} :
    Every right (first :: trace) ↔
      right [] first ∧ Every (fun before => right (first :: before)) trace := by
  constructor
  · intro every
    refine ⟨every [] first trace rfl, ?_⟩
    intro before observation after split
    exact every (first :: before) observation after (by rw [split]; rfl)
  · rintro ⟨firstRight, every⟩ before observation after split
    cases before with
    | nil =>
        obtain ⟨rfl, rfl⟩ := List.cons.inj split
        exact firstRight
    | cons other before =>
        obtain ⟨rfl, rest⟩ := List.cons.inj split
        exact every before observation after rest

/-- Appending one observation asks only for that observation to be right. -/
theorem every_concat
    {right : List Observation → Observation → Prop}
    {trace : List Observation}
    {last : Observation} :
    Every right (trace ++ [last]) ↔ Every right trace ∧ right trace last := by
  constructor
  · intro every
    refine ⟨?_, every trace last [] rfl⟩
    intro before observation after split
    apply every before observation (after ++ [last])
    rw [split]
    simp
  · rintro ⟨every, lastRight⟩ before observation after split
    rcases List.eq_nil_or_concat after with rfl | ⟨init, final, rfl⟩
    · obtain ⟨rfl, last_eq⟩ := List.append_inj' split rfl
      obtain rfl : last = observation := by simpa using last_eq
      exact lastRight
    · apply every before observation init
      rw [List.concat_eq_append, ← List.cons_append,
        ← List.append_assoc] at split
      exact (List.append_inj' split rfl).1

/-- Appending a step's observations asks each of them to be right in turn. -/
theorem Every.append
    {right : List Observation → Observation → Prop}
    {trace : List Observation}
    (every : Every right trace) :
    ∀ {observations : List Observation},
      (∀ before observation after,
        observations = before ++ observation :: after →
          right (trace ++ before) observation) →
      Every right (trace ++ observations) := by
  intro observations
  induction observations using List.reverseRecOn with
  | nil => intro _; simpa using every
  | append_singleton init last inductionHypothesis =>
      intro each
      rw [← List.append_assoc, every_concat]
      refine ⟨inductionHypothesis ?_, each init last [] rfl⟩
      intro before observation after split
      apply each before observation (after ++ [last])
      rw [split]
      simp

/-- Observations that are right whatever came before them. -/
theorem Every.append_of_forall
    {right : List Observation → Observation → Prop}
    {trace observations : List Observation}
    (every : Every right trace)
    (always : ∀ before, ∀ observation ∈ observations,
      right before observation) :
    Every right (trace ++ observations) := by
  apply every.append
  intro before observation after split
  exact always _ observation (by simp [split])

/-- Observations that leave a part of a record that is kept of a trace. -/
theorem foldl_keeps
    {Record Part : Type}
    {observe : Record → Observation → Record}
    {observations : List Observation}
    (part : Record → Part)
    (keeps : ∀ observation ∈ observations, ∀ record,
      part (observe record observation) = part record)
    (record : Record) :
    part (observations.foldl observe record) = part record := by
  induction observations generalizing record with
  | nil => rfl
  | cons observation observations inductionHypothesis =>
      rw [List.foldl_cons, inductionHypothesis fun other present =>
        keeps other (List.mem_cons_of_mem _ present)]
      exact keeps observation List.mem_cons_self record

/-- Observations that leave no entry in a record. -/
theorem foldl_eq_self
    {Record : Type}
    {observe : Record → Observation → Record}
    {observations : List Observation}
    (silent : ∀ observation ∈ observations, ∀ record,
      observe record observation = record)
    (record : Record) :
    observations.foldl observe record = record :=
  foldl_keeps id silent record

end Trace

namespace Machine

variable {State Answer Observation : Type}

/-- The states a machine reaches from `start`, each with its trace, by steps
whose answers `admits` allows. -/
inductive Reaches
    (machine : Machine State Answer Observation)
    (admits : State → List Observation → Answer → Prop)
    (start : State) : State → List Observation → Prop
  | start : Reaches machine admits start start []
  | step {state : State} {trace : List Observation} {answer : Answer} :
      Reaches machine admits start state trace →
      admits state trace answer →
      Reaches machine admits start
        (machine.step state answer).1
        (trace ++ (machine.step state answer).2)

variable {machine : Machine State Answer Observation}
variable {admits : State → List Observation → Answer → Prop}
variable {start state : State} {trace : List Observation}

/-- A property that holds at the start and that every admitted step preserves
holds throughout every run. -/
theorem Reaches.invariant
    (reaches : machine.Reaches admits start state trace)
    (invariant : State → List Observation → Prop)
    (initial : invariant start [])
    (preserved : ∀ state trace answer,
      invariant state trace → admits state trace answer →
        invariant (machine.step state answer).1
          (trace ++ (machine.step state answer).2)) :
    invariant state trace := by
  induction reaches with
  | start => exact initial
  | step _ admitted inductionHypothesis =>
      exact preserved _ _ _ inductionHypothesis admitted

/-- Fewer admitted answers leave fewer runs. -/
theorem Reaches.mono
    {admits' : State → List Observation → Answer → Prop}
    (reaches : machine.Reaches admits start state trace)
    (weaker : ∀ state trace answer,
      admits state trace answer → admits' state trace answer) :
    machine.Reaches admits' start state trace := by
  induction reaches with
  | start => exact .start
  | step _ admitted inductionHypothesis =>
      exact inductionHypothesis.step (weaker _ _ _ admitted)

/-- A run that goes on from where another one leads. -/
theorem Reaches.trans
    {state' : State}
    {trace' : List Observation}
    (reaches : machine.Reaches admits start state trace)
    (further : machine.Reaches
      (fun state trace' => admits state (trace ++ trace')) state state'
      trace') :
    machine.Reaches admits start state' (trace ++ trace') := by
  induction further with
  | start => rwa [List.append_nil]
  | step _ admitted inductionHypothesis =>
      rw [← List.append_assoc]
      exact inductionHypothesis.step admitted

/-- Run a machine on a list of answers, collecting the trace. -/
def execute
    (machine : Machine State Answer Observation) :
    State → List Observation → List Answer → State × List Observation
  | state, trace, [] => (state, trace)
  | state, trace, answer :: answers =>
      let stepped := machine.step state answer
      machine.execute stepped.1 (trace ++ stepped.2) answers

/-- Every answer of a list is admitted where it is given. -/
def Admitted
    (machine : Machine State Answer Observation)
    (admits : State → List Observation → Answer → Prop) :
    State → List Observation → List Answer → Prop
  | _, _, [] => True
  | state, trace, answer :: answers =>
      let stepped := machine.step state answer
      admits state trace answer ∧
        machine.Admitted admits stepped.1 (trace ++ stepped.2) answers

instance decidableAdmitted
    [∀ state trace answer, Decidable (admits state trace answer)] :
    (state : State) → (trace : List Observation) → (answers : List Answer) →
      Decidable (machine.Admitted admits state trace answers)
  | _, _, [] => inferInstanceAs (Decidable True)
  | _, _, _ :: answers =>
      @instDecidableAnd _ _ inferInstance (decidableAdmitted _ _ answers)

/-- A property holds at a state and after each of the answers given there. -/
def Throughout
    (machine : Machine State Answer Observation)
    (invariant : State → List Observation → Prop) :
    State → List Observation → List Answer → Prop
  | state, trace, [] => invariant state trace
  | state, trace, answer :: answers =>
      let stepped := machine.step state answer
      invariant state trace ∧
        machine.Throughout invariant stepped.1 (trace ++ stepped.2) answers

theorem Throughout.initial
    {invariant : State → List Observation → Prop}
    {answers : List Answer}
    (holds : machine.Throughout invariant state trace answers) :
    invariant state trace := by
  cases answers with
  | nil => exact holds
  | cons answer answers => exact holds.1

/-- Where a step keeps an invariant exactly when its answer is admitted, the
invariant holds throughout exactly when all answers are. -/
theorem throughout_iff_admitted
    {invariant : State → List Observation → Prop}
    (preserved : ∀ state trace answer, invariant state trace →
      (invariant (machine.step state answer).1
          (trace ++ (machine.step state answer).2) ↔
        admits state trace answer))
    (initial : invariant state trace)
    (answers : List Answer) :
    machine.Throughout invariant state trace answers ↔
      machine.Admitted admits state trace answers := by
  induction answers generalizing state trace with
  | nil => exact iff_of_true initial trivial
  | cons answer answers inductionHypothesis =>
      have kept := preserved state trace answer initial
      constructor
      · rintro ⟨-, rest⟩
        exact ⟨kept.1 rest.initial, (inductionHypothesis rest.initial).1 rest⟩
      · rintro ⟨admitted, rest⟩
        have next := kept.2 admitted
        exact ⟨initial, (inductionHypothesis next).2 rest⟩

theorem admitted_of_forall
    {admitsAnswer : Answer → Prop}
    {answers : List Answer}
    (admitted : ∀ answer ∈ answers, admitsAnswer answer) :
    machine.Admitted (fun _ _ => admitsAnswer) state trace answers := by
  induction answers generalizing state trace with
  | nil => trivial
  | cons answer answers inductionHypothesis =>
      exact ⟨admitted answer (by simp), inductionHypothesis fun other present =>
        admitted other (by simp [present])⟩

theorem Admitted.and
    {admits' : State → List Observation → Answer → Prop}
    {answers : List Answer}
    (left : machine.Admitted admits state trace answers)
    (right : machine.Admitted admits' state trace answers) :
    machine.Admitted
      (fun state trace answer =>
        admits state trace answer ∧ admits' state trace answer)
      state trace answers := by
  induction answers generalizing state trace with
  | nil => trivial
  | cons answer answers inductionHypothesis =>
      exact ⟨⟨left.1, right.1⟩, inductionHypothesis left.2 right.2⟩

/-- A list of admitted answers is a run. -/
theorem Reaches.execute
    (answers : List Answer)
    (reaches : machine.Reaches admits start state trace)
    (admitted : machine.Admitted admits state trace answers) :
    machine.Reaches admits start
      (machine.execute state trace answers).1
      (machine.execute state trace answers).2 := by
  induction answers generalizing state trace with
  | nil => exact reaches
  | cons answer answers inductionHypothesis =>
      exact inductionHypothesis (reaches.step admitted.1) admitted.2

/-- The machine together with a record of its run, which no step depends on. -/
def recording
    {Record : Type}
    (machine : Machine State Answer Observation)
    (enter : Record → State → Answer → Record) :
    Machine (State × Record) Answer Observation where
  step recorded answer :=
    let stepped := machine.step recorded.1 answer
    ((stepped.1, enter recorded.2 recorded.1 answer), stepped.2)

/-- A run of the machine is a run with a record of it. -/
theorem Reaches.recorded
    {Record : Type}
    (reaches : machine.Reaches admits start state trace)
    (enter : Record → State → Answer → Record)
    (record : Record) :
    ∃ record', (machine.recording enter).Reaches
      (fun recorded => admits recorded.1) (start, record) (state, record')
      trace := by
  induction reaches with
  | start => exact ⟨record, .start⟩
  | step _ admitted inductionHypothesis =>
      obtain ⟨before, reached⟩ := inductionHypothesis
      exact ⟨_, reached.step admitted⟩

/-- Where every step pays its cost from a rank, a whole run costs no more than
the rank that it begins with. -/
theorem Reaches.budget
    {cost : State → Answer → Nat}
    {admits : State × Nat → List Observation → Answer → Prop}
    {count : Nat}
    (reaches : (machine.recording fun total state answer =>
        total + cost state answer).Reaches admits (start, 0) (state, count)
      trace)
    (rank : State → Nat)
    (holds : State → Prop)
    (initial : holds start)
    (pays : ∀ recorded trace answer,
      holds recorded.1 → admits recorded trace answer →
        holds (machine.step recorded.1 answer).1 ∧
          rank (machine.step recorded.1 answer).1 + cost recorded.1 answer ≤
            rank recorded.1) :
    rank state + count ≤ rank start := by
  refine (reaches.invariant
    (fun recorded _ =>
      holds recorded.1 ∧ rank recorded.1 + recorded.2 ≤ rank start)
    ⟨initial, Nat.le_refl _⟩ ?_).2
  rintro recorded trace answer ⟨held, paid⟩ admitted
  obtain ⟨holds', pays'⟩ := pays recorded trace answer held admitted
  refine ⟨holds', ?_⟩
  simp only [recording] at paid ⊢
  omega

/-! ## Projections -/

section Projections

variable {State' Answer' Observation' : Type}

/-- One step as another machine sees it: it leaves the projected state and
shows nothing, or is an admitted step of that machine. -/
def Projects
    (machine : Machine State Answer Observation)
    (machine' : Machine State' Answer' Observation')
    (admits' : State' → List Observation' → Answer' → Prop)
    (project : State → State')
    (shows : Observation → Option Observation')
    (state : State)
    (trace : List Observation)
    (answer : Answer) : Prop :=
  let stepped := machine.step state answer
  project stepped.1 = project state ∧ stepped.2.filterMap shows = [] ∨
    ∃ answer', admits' (project state) (trace.filterMap shows) answer' ∧
      machine'.step (project state) answer' =
        (project stepped.1, stepped.2.filterMap shows)

variable {machine' : Machine State' Answer' Observation'}
variable {admits' : State' → List Observation' → Answer' → Prop}

/-- When another machine sees every step of a run so, it sees a run. -/
theorem Reaches.project
    (reaches : machine.Reaches admits start state trace)
    (project : State → State')
    (shows : Observation → Option Observation')
    (projects : ∀ state trace answer,
      machine.Reaches admits start state trace →
        machine'.Reaches admits' (project start) (project state)
            (trace.filterMap shows) →
          admits state trace answer →
            machine.Projects machine' admits' project shows state trace
              answer) :
    machine'.Reaches admits' (project start) (project state)
      (trace.filterMap shows) := by
  induction reaches with
  | start => exact .start
  | step reached admitted inductionHypothesis =>
      rw [List.filterMap_append]
      rcases projects _ _ _ reached inductionHypothesis admitted with
        ⟨same, silent⟩ | ⟨answer', admitted', stepped⟩
      · rw [same, silent, List.append_nil]
        exact inductionHypothesis
      · have next := inductionHypothesis.step admitted'
        rw [stepped] at next
        exact next

end Projections

end Machine
