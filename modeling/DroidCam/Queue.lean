import Mathlib.Data.List.Basic

/-
  DroidCam/Queue.lean
  ===================
  The frame queues of `queue.c`, seen as the list of their payloads from `first`
  to `last`.  Each operation holds the queue's mutex from its first access to its
  last, so it is one atomic step on that list.  The exception is a caller that
  reads the `size` field directly: it takes no lock and sees the length of the
  list at that moment only.
-/

namespace DroidCam.Queue

variable {α : Type*}

/-- `queue_clear`. -/
def queueClear : List α := []

/-- `queue_add`: append at `last`. -/
def queueAdd (q : List α) (item : α) : List α := q ++ [item]

/-- `queue_next`: pop `first` when more than `backbuffer` elements are queued,
    otherwise return `NULL` and leave the queue alone. -/
def queueNext (q : List α) (backbuffer : Nat) : Option α × List α :=
  if q.length > backbuffer then (q.head?, q.tail) else (none, q)

theorem queueNext_of_le {q : List α} {backbuffer : Nat} (h : q.length ≤ backbuffer) :
    queueNext q backbuffer = (none, q) := if_neg (Nat.not_lt.mpr h)

theorem queueNext_cons {q : List α} {item : α} {backbuffer : Nat}
    (h : backbuffer < (item :: q).length) : queueNext (item :: q) backbuffer = (some item, q) :=
  if_pos h

/-- A successful `queue_next` returns the head, and more than `backbuffer`
    elements were queued. -/
theorem queueNext_eq_some {q q' : List α} {backbuffer : Nat} {item : α}
    (h : queueNext q backbuffer = (some item, q')) :
    q = item :: q' ∧ backbuffer < q.length := by
  unfold queueNext at h
  split at h
  · rename_i hlen
    cases q with
    | nil => simp at hlen
    | cons x xs =>
        simp only [List.head?_cons, List.tail_cons, Prod.mk.injEq, Option.some.injEq] at h
        obtain ⟨rfl, rfl⟩ := h
        exact ⟨rfl, hlen⟩
  · simp at h

/-- A failing `queue_next` changes nothing. -/
theorem queueNext_eq_none {q q' : List α} {backbuffer : Nat}
    (h : queueNext q backbuffer = (none, q')) : q' = q ∧ q.length ≤ backbuffer := by
  unfold queueNext at h
  split at h
  · rename_i hlen
    cases q with
    | nil => simp at hlen
    | cons x xs => simp at h
  · rename_i hlen
    simp only [Prod.mk.injEq, true_and] at h
    exact ⟨h.symm, by omega⟩

end DroidCam.Queue
