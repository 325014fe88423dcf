import Mathlib.Data.List.Basic
import Mathlib.Data.Nat.Basic
import Mathlib.Order.Basic

/-!
# Channels without gaps

A sender follows a script, a graph whose edges are the items that it sends.
The channel to the receiver bridges two places of the script when its items
lead from the place up to which the receiver has heard to the place up to which
the sender has sent.  A channel that hands over its items first in first out
and loses none keeps up the bridge.
-/

/-- The items lead from what was heard to what was sent. -/
def Bridges
    {Item Place : Type}
    (leads : Place → Item → Place → Prop) : Place → List Item → Place → Prop
  | heard, [], sent => heard = sent
  | heard, item :: rest, sent =>
      ∃ next, leads heard item next ∧ Bridges leads next rest sent

namespace Bridges

variable {Item Place : Type} {leads : Place → Item → Place → Prop}
variable {heard sent : Place} {channel : List Item} {item : Item}

@[simp] theorem nil_iff : Bridges leads heard [] sent ↔ heard = sent :=
  Iff.rfl

theorem singleton (step : leads heard item sent) :
    Bridges leads heard [item] sent :=
  ⟨sent, step, rfl⟩

/-- The sender sends more items behind all others. -/
theorem append
    {later : Place}
    {items : List Item}
    (bridges : Bridges leads heard channel sent)
    (more : Bridges leads sent items later) :
    Bridges leads heard (channel ++ items) later := by
  induction channel generalizing heard with
  | nil =>
      obtain rfl : heard = sent := bridges
      exact more
  | cons item rest inductionHypothesis =>
      obtain ⟨next, step, rest⟩ := bridges
      exact ⟨next, step, inductionHypothesis rest⟩

/-- A script that never goes back has heard at most what was sent. -/
theorem le
    [Preorder Place]
    (bridges : Bridges leads heard channel sent)
    (forwards : ∀ here item there, leads here item there → here ≤ there) :
    heard ≤ sent := by
  induction channel generalizing heard with
  | nil => exact le_of_eq bridges
  | cons item rest inductionHypothesis =>
      obtain ⟨next, step, rest⟩ := bridges
      exact (forwards _ _ _ step).trans (inductionHypothesis rest)

/-- A script that always goes forwards has nothing between a place and
itself. -/
theorem eq_nil
    [Preorder Place]
    (bridges : Bridges leads heard channel heard)
    (forwards : ∀ here item there, leads here item there → here < there) :
    channel = [] := by
  cases channel with
  | nil => rfl
  | cons item rest =>
      obtain ⟨next, step, rest⟩ := bridges
      have back := rest.le fun _ _ _ leads => (forwards _ _ _ leads).le
      exact absurd back (forwards _ _ _ step).not_ge

/-- Every item leads from one place to another. -/
theorem exists_leads
    (bridges : Bridges leads heard channel sent)
    (present : item ∈ channel) :
    ∃ here there, leads here item there := by
  induction channel generalizing heard with
  | nil => cases present
  | cons other rest inductionHypothesis =>
      obtain ⟨next, step, behind⟩ := bridges
      rcases List.mem_cons.mp present with rfl | inRest
      · exact ⟨heard, next, step⟩
      · exact inductionHypothesis behind inRest

/-- Items that each lead on by a stride, but for the one that reaches the
goal. -/
theorem length_mul_lt
    {leads : Nat → Item → Nat → Prop}
    {heard sent goal stride : Nat}
    (bridges : Bridges leads heard channel sent)
    (positive : 0 < stride)
    (within : sent ≤ goal)
    (forwards : ∀ here item there, leads here item there → here < there)
    (strides : ∀ item ∈ channel, ∀ here there, heard ≤ here → here < goal →
      leads here item there → there = goal ∨ here + stride ≤ there) :
    channel.length * stride + heard < sent + stride := by
  induction channel generalizing heard with
  | nil =>
      obtain rfl : heard = sent := bridges
      simpa using positive
  | cons item rest inductionHypothesis =>
      obtain ⟨next, step, behind⟩ := bridges
      have forth := forwards _ _ _ step
      have before : next ≤ sent :=
        behind.le fun _ _ _ leads => (forwards _ _ _ leads).le
      have fewer := inductionHypothesis behind fun other present here there
          after => strides other (List.mem_cons_of_mem _ present) here there
        (forth.le.trans after)
      rw [List.length_cons, Nat.succ_mul]
      rcases strides item List.mem_cons_self heard next (Nat.le_refl heard)
        (by omega) step with last | further
      · -- Nothing follows the item that reaches the goal.
        obtain rfl : next = sent := by omega
        obtain rfl := behind.eq_nil forwards
        simp
        omega
      · omega

/-- Items that each lead on are no more than the places in between. -/
theorem length_add_le
    {leads : Nat → Item → Nat → Prop}
    {heard sent : Nat}
    (bridges : Bridges leads heard channel sent)
    (forwards : ∀ here item there, leads here item there → here < there) :
    channel.length + heard ≤ sent := by
  have fewer := bridges.length_mul_lt Nat.one_pos (Nat.le_refl sent) forwards
    fun _ _ _ _ _ _ step => .inr (forwards _ _ _ step)
  omega

end Bridges
