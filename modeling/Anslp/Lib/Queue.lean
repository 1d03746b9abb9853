import Mathlib.Data.List.Basic

/-!
# Queues with expedited elements

The functions of a queue that may take some elements before the others, and what they are relied
on for: elements that are not expedited are taken in the order in which they came, behind all
that were there.  Where an expedited element goes is left open.

Main results:

- Theorem {lit}`QueueOps.IsFifo.dequeue_append`: what is taken is the first of what is there.
- Theorem {lit}`ListQueue.isFifo_contents`: two lists, of the expedited elements and of the
  others, are such a queue.

Current gaps:

- None for one thread at a time; waiting for an element is left out.
-/

namespace Anslp

/-- The functions of a queue: a new one, an element more, which may be expedited, and the first
element, if there is one. -/
class QueueOps (Q : Type) (β : outParam Type) where
  create : Q
  enqueue : Q → β → Bool → Q
  dequeue : Q → Option β × Q

namespace QueueOps

variable {Q β : Type} [QueueOps Q β] {contents : Q → List β}

/-- The contents of a queue, in the order in which they are taken. -/
structure IsFifo (contents : Q → List β) : Prop where
  create : contents create = []
  enqueue : ∀ q b, contents (enqueue q b false) = contents q ++ [b]
  dequeue : ∀ q, (dequeue q).1 = (contents q).head? ∧ contents (dequeue q).2 = (contents q).tail

/-- What is taken and what is left are what was there. -/
theorem IsFifo.dequeue_append (h : IsFifo contents) (q : Q) :
    (QueueOps.dequeue q).1.toList ++ contents (QueueOps.dequeue q).2 = contents q := by
  rw [(h.dequeue q).1, (h.dequeue q).2]
  cases contents q <;> rfl

end QueueOps

/-- The expedited elements and the others. -/
structure ListQueue (β : Type) where
  expedited : List β
  elements : List β

namespace ListQueue

variable {β : Type}

/-- Both lists. -/
def contents (q : ListQueue β) : List β :=
  q.expedited ++ q.elements

instance : QueueOps (ListQueue β) β where
  create := ⟨[], []⟩
  enqueue q b exp :=
    if exp then { q with expedited := q.expedited ++ [b] }
    else { q with elements := q.elements ++ [b] }
  dequeue q :=
    match q.expedited, q.elements with
    | b :: bs, _ => (some b, { q with expedited := bs })
    | [], b :: bs => (some b, { q with elements := bs })
    | [], [] => (none, q)

/-- Expedited elements are taken first. -/
theorem isFifo_contents : QueueOps.IsFifo (contents : ListQueue β → List β) where
  create := rfl
  enqueue q b := (List.append_assoc _ _ _).symm
  dequeue q := by
    rcases q with ⟨_ | ⟨b, bs⟩, _ | ⟨b', bs'⟩⟩ <;> exact ⟨rfl, rfl⟩

end ListQueue
end Anslp
