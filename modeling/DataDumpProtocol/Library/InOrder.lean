import Mathlib.Data.List.Basic
import Mathlib.Order.Basic

/-!
# Items in order

A channel carries items, each of which covers a stretch of one long tape, from
its start to its finish.  The items are in order when they lie one behind the
other between the place up to which the receiver has heard and the place up to
which the sender has sent.  A channel that hands over its items first in first
out keeps them in order, also when it loses some.
-/

/-- The items lie one behind the other, between what was heard and what was
sent. -/
def InOrder
    {Item Place : Type}
    [Preorder Place]
    (start finish : Item → Place) : Place → List Item → Place → Prop
  | heard, [], sent => heard ≤ sent
  | heard, item :: rest, sent =>
      heard ≤ start item ∧ start item ≤ finish item ∧
        InOrder start finish (finish item) rest sent

namespace InOrder

variable {Item Place : Type} [Preorder Place] {start finish : Item → Place}
variable {heard sent : Place} {channel : List Item} {item : Item}

/-- What was heard was sent. -/
theorem le (inOrder : InOrder start finish heard channel sent) :
    heard ≤ sent := by
  induction channel generalizing heard with
  | nil => exact inOrder
  | cons item rest inductionHypothesis =>
      obtain ⟨before, within, later⟩ := inOrder
      exact before.trans (within.trans (inductionHypothesis later))

/-- The receiver may have heard less. -/
theorem heard_mono
    {earlier : Place}
    (inOrder : InOrder start finish heard channel sent)
    (before : earlier ≤ heard) :
    InOrder start finish earlier channel sent := by
  cases channel with
  | nil => exact before.trans inOrder
  | cons item rest => exact ⟨before.trans inOrder.1, inOrder.2⟩

/-- The sender sends more items behind all others. -/
theorem append
    {later : Place}
    {items : List Item}
    (inOrder : InOrder start finish heard channel sent)
    (more : InOrder start finish sent items later) :
    InOrder start finish heard (channel ++ items) later := by
  induction channel generalizing heard with
  | nil => exact more.heard_mono inOrder
  | cons item rest inductionHypothesis =>
      obtain ⟨first, covers, rest⟩ := inOrder
      exact ⟨first, covers, inductionHypothesis rest⟩

/-- The channel loses items. -/
theorem sublist
    {remaining : List Item}
    (inOrder : InOrder start finish heard channel sent)
    (lost : remaining.Sublist channel) :
    InOrder start finish heard remaining sent := by
  induction lost generalizing heard with
  | slnil => exact inOrder
  | cons item _ inductionHypothesis =>
      obtain ⟨first, covers, rest⟩ := inOrder
      exact (inductionHypothesis rest).heard_mono (first.trans covers)
  | cons_cons item _ inductionHypothesis =>
      obtain ⟨first, covers, rest⟩ := inOrder
      exact ⟨first, covers, inductionHypothesis rest⟩

/-- Every item lies between what was heard and what was sent. -/
theorem mem
    (inOrder : InOrder start finish heard channel sent)
    (present : item ∈ channel) :
    heard ≤ start item ∧ finish item ≤ sent := by
  induction channel generalizing heard with
  | nil => simp at present
  | cons first rest inductionHypothesis =>
      obtain ⟨before, covers, later⟩ := inOrder
      rcases List.mem_cons.mp present with rfl | behind
      · exact ⟨before, later.le⟩
      · obtain ⟨after, reached⟩ := inductionHypothesis later behind
        exact ⟨before.trans (covers.trans after), reached⟩

end InOrder
