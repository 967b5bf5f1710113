import Mathlib.Data.List.Basic
import Mathlib.Data.List.Perm.Basic

/-
  DroidCam/Lib/Descriptors.lean
  =============================
  **System calls that answer through `errno`, and the descriptors a thread holds.**

  A call returns a number, or -1 with an `errno`; a call that succeeds leaves the
  `errno` of an earlier one standing.  A descriptor is live from the call that hands
  it out to the `close` that takes it back, and a `close` that finds none is counted.
-/

namespace Descriptors

/-! ### Answers -/

abbrev Errno := Nat

inductive Reply where
  | value (n : Nat)
  | error (e : Errno)
deriving DecidableEq, Repr

/-- What the call returns. -/
def Reply.ret : Reply → Int
  | .value n => n
  | .error _ => -1

/-- `errno` after the call. -/
def Reply.errno (old : Errno) : Reply → Errno
  | .value _ => old
  | .error e => e

@[simp] theorem Reply.ret_value (n : Nat) : (Reply.value n).ret = n := rfl

@[simp] theorem Reply.ret_error (e : Errno) : (Reply.error e).ret = -1 := rfl

@[simp] theorem Reply.errno_value (old : Errno) (n : Nat) : (Reply.value n).errno old = old := rfl

@[simp] theorem Reply.errno_error (old e : Errno) : (Reply.error e).errno old = e := rfl

/-! ### Descriptors -/

/-- The descriptors that are open, and how often something else was closed. -/
structure Table where
  live : List Int
  stray : Nat
deriving DecidableEq, Repr

def Table.empty : Table := ⟨[], 0⟩

def Table.opened (t : Table) (fd : Int) : Table := { t with live := fd :: t.live }

def Table.close (t : Table) (fd : Int) : Table :=
  if fd ∈ t.live then { t with live := t.live.erase fd } else { t with stray := t.stray + 1 }

/-- Every descriptor that was opened has been closed, and closed once. -/
def Table.AllClosed (t : Table) : Prop := t.live = [] ∧ t.stray = 0

theorem Table.empty_allClosed : Table.empty.AllClosed := ⟨rfl, rfl⟩

@[simp] theorem Table.close_opened (t : Table) (fd : Int) : (t.opened fd).close fd = t := by
  have hmem : fd ∈ (t.opened fd).live := List.mem_cons_self
  rw [Table.close, if_pos hmem]
  simp [Table.opened]

/-- Closing one descriptor leaves the others open. -/
theorem Table.mem_close {t : Table} {fd other : Int} (hne : other ≠ fd) (h : other ∈ t.live) :
    other ∈ (t.close fd).live := by
  rw [Table.close]
  split
  · exact (List.mem_erase_of_ne hne).mpr h
  · exact h

/-! ### Descriptors that are accounted for

A table is compared with the descriptors that its users say they hold. Order does not
matter, and a close of anything else would show in the count. -/

/-- The open descriptors are these, and nothing else was ever closed. -/
structure Table.Holds (t : Table) (held : List Int) : Prop where
  live : t.live.Perm held
  stray : t.stray = 0

theorem Table.Holds.empty : Table.empty.Holds [] := ⟨List.Perm.nil, rfl⟩

theorem Table.Holds.perm {t : Table} {held held' : List Int} (h : t.Holds held)
    (hperm : held.Perm held') : t.Holds held' := ⟨h.live.trans hperm, h.stray⟩

theorem Table.Holds.opened {t : Table} {held : List Int} (h : t.Holds held) (fd : Int) :
    (t.opened fd).Holds (fd :: held) := ⟨h.live.cons fd, h.stray⟩

/-- A descriptor that is held is closed, and the others stay. -/
theorem Table.Holds.close {t : Table} {held : List Int} {fd : Int} (h : t.Holds (fd :: held)) :
    (t.close fd).Holds held := by
  have hmem : fd ∈ t.live := h.live.mem_iff.mpr List.mem_cons_self
  rw [Table.close, if_pos hmem]
  have herase := h.live.erase fd
  rw [List.erase_cons_head] at herase
  exact ⟨herase, h.stray⟩

theorem Table.Holds.allClosed {t : Table} (h : t.Holds []) : t.AllClosed :=
  ⟨List.perm_nil.mp h.live, h.stray⟩

theorem Table.not_allClosed {t : Table} {fd : Int} (h : fd ∈ t.live) : ¬ t.AllClosed := by
  intro hclosed
  rw [hclosed.1] at h
  exact List.not_mem_nil h

end Descriptors
