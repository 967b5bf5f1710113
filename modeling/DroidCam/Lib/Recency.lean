import Mathlib.Data.List.Perm.Lattice
import Mathlib.Data.List.Range

/-
  DroidCam/Lib/Recency.lean
  =========================
  **A finite set kept as a list in order of last use.**

  Using an element moves it to the tail, so the head is the element whose last
  use is the longest ago, and the tail of each class is the one of it used last
  (`Newest`).  What matters for a pool of `n` numbered elements is that the list
  stays a permutation of `0 .. n-1`, also when the pool shrinks.
-/

namespace Recency

variable {α : Type*}

/-- In the class `p`, the last element used is at the tail: `recent` lists the uses
    that are known, in order. -/
def Newest (p : α → Bool) (l recent : List α) : Prop :=
  ∀ a, (recent.filter p).getLast? = some a → (l.filter p).getLast? = some a

theorem Newest.nil (p : α → Bool) (l : List α) : Newest p l [] := by
  intro a h
  cases h

/-- The elements that are left when the others are taken out. -/
theorem Newest.filter {p q : α → Bool} {l recent : List α} (hpq : ∀ a, p a = true → q a = true)
    (h : Newest p l recent) : Newest p (l.filter q) recent := by
  intro a ha
  have hboth : (l.filter q).filter p = l.filter p := by
    rw [List.filter_filter]
    refine List.filter_congr fun b _ => ?_
    cases hp : p b with
    | false => rfl
    | true => exact hpq b hp
  rw [hboth]
  exact h a ha

variable [DecidableEq α]

/-- Move `a` to the tail. -/
def moveToTail (l : List α) (a : α) : List α := l.erase a ++ [a]

theorem moveToTail_perm {l : List α} {a : α} (h : a ∈ l) : (moveToTail l a).Perm l := by
  have hcons : (moveToTail l a).Perm (a :: l.erase a) := List.perm_append_singleton a _
  exact hcons.trans (List.perm_cons_erase h).symm

/-- Among the elements of a class, using `a` matters only if it is one of them. -/
theorem filter_moveToTail (p : α → Bool) (l : List α) (a : α) :
    (moveToTail l a).filter p = if p a then moveToTail (l.filter p) a else l.filter p := by
  rw [moveToTail, List.filter_append, ← List.erase_filter]
  by_cases hp : p a = true
  · rw [if_pos hp, List.filter_cons_of_pos hp, List.filter_nil, moveToTail]
  · have hnot : a ∉ l.filter p := fun h => hp (List.mem_filter.mp h).2
    rw [if_neg hp, List.filter_cons_of_neg hp, List.filter_nil, List.append_nil,
      List.erase_of_not_mem hnot]

/-- One more use. -/
theorem Newest.used {p : α → Bool} {l recent : List α} (h : Newest p l recent) (a : α) :
    Newest p (moveToTail l a) (recent ++ [a]) := by
  intro b hb
  rw [List.filter_append] at hb
  rw [filter_moveToTail]
  by_cases hp : p a = true
  · rw [List.filter_cons_of_pos hp, List.filter_nil, List.getLast?_concat] at hb
    rw [if_pos hp, moveToTail, List.getLast?_concat]
    exact hb
  · rw [List.filter_cons_of_neg hp, List.filter_nil, List.append_nil] at hb
    rw [if_neg hp]
    exact h b hb

/-- The elements of a smaller pool, in the same order. -/
theorem filter_lt_perm_range {l : List Nat} {n k : Nat} (h : l.Perm (List.range n)) (hk : k ≤ n) :
    (l.filter fun i => i < k).Perm (List.range k) := by
  have hrange : (List.range n).filter (fun i => i < k) = List.range k := by
    obtain ⟨m, rfl⟩ := Nat.exists_eq_add_of_le hk
    rw [List.range_add, List.filter_append]
    have hlow : (List.range k).filter (fun i => decide (i < k)) = List.range k := by
      simp [List.filter_eq_self]
    have hhigh : ((List.range m).map (k + ·)).filter (fun i => decide (i < k)) = [] := by
      simp [List.filter_eq_nil_iff]
    rw [hlow, hhigh, List.append_nil]
  rw [← hrange]
  exact h.filter _

end Recency
