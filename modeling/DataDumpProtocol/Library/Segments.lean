import Mathlib.Algebra.Order.Floor.Div
import Mathlib.Data.List.Induction

/-!
# Segments

A list is cut into segments of one size, of which only the last can be shorter,
and which carries a mark.  A sender that never skips a segment has sent a prefix
of them; `Segments.Sent` says so, and its lemmas say what follows for the bytes,
the marks and the number of what was sent.
-/

namespace Segments

variable {Item : Type} {size index : Nat} {items : List Item}

/-- The segment at this index. -/
def segment (size : Nat) (items : List Item) (index : Nat) : List Item :=
  (items.drop (size * index)).take size

/-- All segments, each with whether it is the last. -/
def segments (size : Nat) (items : List Item) : List (List Item × Bool) :=
  (List.range (items.length ⌈/⌉ size)).map fun index =>
    (segment size items index, decide (index + 1 = items.length ⌈/⌉ size))

/-- The segments that were sent are the first ones. -/
def Sent
    (size : Nat)
    (items : List Item)
    (sent : List (List Item × Bool)) : Prop :=
  sent <+: segments size items

/-- The items in the segments that were sent. -/
def contents (sent : List (List Item × Bool)) : List Item :=
  (sent.map Prod.fst).flatten

@[simp] theorem length_segments (size : Nat) (items : List Item) :
    (segments size items).length = items.length ⌈/⌉ size := by
  simp [segments]

@[simp] theorem getElem_segments
    (inside : index < (segments size items).length) :
    (segments size items)[index] =
      (segment size items index,
        decide (index + 1 = items.length ⌈/⌉ size)) := by
  simp [segments]

theorem length_segment_le (size : Nat) (items : List Item) (index : Nat) :
    (segment size items index).length ≤ size :=
  List.length_take_le _ _

theorem take_succ (size : Nat) (items : List Item) (index : Nat) :
    items.take (size * (index + 1)) =
      items.take (size * index) ++ segment size items index := by
  rw [Nat.mul_succ, List.take_add, segment]

theorem lt_ceilDiv_iff (positive : 0 < size) (total : Nat) :
    index < total ⌈/⌉ size ↔ size * index < total := by
  rw [← Nat.not_le, ceilDiv_le_iff_le_mul positive, Nat.not_le]

theorem segment_ne_nil
    (positive : 0 < size)
    (inside : index < items.length ⌈/⌉ size) :
    segment size items index ≠ [] := by
  rw [lt_ceilDiv_iff positive] at inside
  apply List.ne_nil_of_length_pos
  rw [segment, List.length_take, List.length_drop]
  omega

theorem contents_take_segments
    (size : Nat)
    (items : List Item)
    {count : Nat}
    (inside : count ≤ (segments size items).length) :
    contents ((segments size items).take count) =
      items.take (size * count) := by
  induction count with
  | zero => simp [contents]
  | succ count inductionHypothesis =>
      have before := inductionHypothesis (by omega)
      rw [contents] at before ⊢
      rw [List.take_succ_eq_append_getElem (by omega), List.map_append,
        List.flatten_append, before, take_succ]
      simp

namespace Sent

variable {sent : List (List Item × Bool)}

theorem nil (size : Nat) (items : List Item) : Sent size items [] :=
  List.nil_prefix

theorem eq_take (isSent : Sent size items sent) :
    sent = (segments size items).take sent.length :=
  List.prefix_iff_eq_take.mp isSent

theorem length_le (isSent : Sent size items sent) :
    sent.length ≤ items.length ⌈/⌉ size := by
  simpa using List.IsPrefix.length_le isSent

/-- The next segment is sent. -/
theorem next
    (isSent : Sent size items sent)
    (inside : sent.length < items.length ⌈/⌉ size) :
    Sent size items
      (sent ++ [(segment size items sent.length,
        decide (sent.length + 1 = items.length ⌈/⌉ size))]) := by
  have inside' : sent.length < (segments size items).length := by simpa
  rw [Sent, List.prefix_iff_eq_take, List.length_append, List.length_singleton,
    List.take_succ_eq_append_getElem inside', ← isSent.eq_take,
    getElem_segments inside']

/-- What was sent is a prefix of the items. -/
theorem contents_eq (isSent : Sent size items sent) :
    contents sent = items.take (size * sent.length) := by
  have le : sent.length ≤ (segments size items).length := by
    simpa using isSent.length_le
  rw [← contents_take_segments size items le, ← isSent.eq_take]

theorem nonempty
    (isSent : Sent size items sent)
    (positive : 0 < size) :
    ∀ entry ∈ sent, entry.1 ≠ [] := by
  intro entry present
  obtain ⟨index, inside, rfl⟩ := List.mem_iff_getElem.mp
    (List.IsPrefix.subset isSent present)
  rw [getElem_segments]
  exact segment_ne_nil positive (by simpa using inside)

theorem bounded (isSent : Sent size items sent) :
    ∀ entry ∈ sent, entry.1.length ≤ size := by
  intro entry present
  obtain ⟨index, inside, rfl⟩ := List.mem_iff_getElem.mp
    (List.IsPrefix.subset isSent present)
  rw [getElem_segments]
  exact length_segment_le size items index

/-- Nothing is missing exactly when no segment is. -/
theorem contents_eq_iff
    (isSent : Sent size items sent)
    (positive : 0 < size) :
    contents sent = items ↔ sent.length = items.length ⌈/⌉ size := by
  have le := isSent.length_le
  have all : items.length ≤ size * sent.length ↔
      items.length ⌈/⌉ size ≤ sent.length :=
    (ceilDiv_le_iff_le_mul positive).symm
  rw [isSent.contents_eq, List.take_eq_self_iff, all]
  omega

/-- A segment is marked exactly when it completes the items. -/
theorem marked_iff
    {before after : List (List Item × Bool)}
    {entry : List Item × Bool}
    (isSent : Sent size items (before ++ entry :: after))
    (positive : 0 < size) :
    entry.2 = true ↔ contents (before ++ [entry]) = items := by
  have upTo : Sent size items (before ++ [entry]) := by
    refine List.IsPrefix.trans ?_ isSent
    simp
  have inside : before.length < (segments size items).length := by
    have := upTo.length_le
    simp at this ⊢
    omega
  have mark : entry = (segments size items)[before.length] := by
    have same := upTo.eq_take
    rw [List.length_append, List.length_singleton,
      List.take_succ_eq_append_getElem inside] at same
    exact List.singleton_inj.mp (List.append_inj' same rfl).2
  rw [upTo.contents_eq_iff positive, mark, getElem_segments inside]
  simp

/-- A marked segment was sent exactly when all segments were. -/
theorem exists_marked_iff
    (isSent : Sent size items sent)
    (positive : 0 < size)
    (some : items ≠ []) :
    (∃ entry ∈ sent, entry.2 = true) ↔
      sent.length = items.length ⌈/⌉ size := by
  constructor
  · rintro ⟨entry, present, marked⟩
    obtain ⟨before, after, rfl⟩ := List.append_of_mem present
    have complete := (isSent.marked_iff positive).mp marked
    have upTo : Sent size items (before ++ [entry]) := by
      refine List.IsPrefix.trans ?_ isSent
      simp
    have all := (upTo.contents_eq_iff positive).mp complete
    have le := isSent.length_le
    simp at all le ⊢
    omega
  · intro all
    have nonempty : 0 < items.length ⌈/⌉ size := by
      rw [lt_ceilDiv_iff positive, Nat.mul_zero]
      exact List.length_pos_of_ne_nil some
    obtain rfl | ⟨before, entry, rfl⟩ := List.eq_nil_or_concat' sent
    · simp at all
      omega
    · refine ⟨entry, by simp, ?_⟩
      rw [isSent.marked_iff positive, isSent.contents_eq_iff positive]
      exact all

end Sent

end Segments
