import Mathlib.Data.List.Range

/-
  DroidCam/Lib/Trial.lean
  =======================
  **Trying candidates one after the other.**

  A candidate is rejected, accepted, or it ends the search with nothing.  What a trial
  leaves behind is the state for the next one.  A search within a search gives a
  verdict too, so searches nest, and a nested search is one over all pairs.
-/

namespace Trial

variable {σ κ ι β : Type*}

inductive Verdict (β : Type*) where
  | rejected
  | accepted (b : β)
  | abandoned
deriving DecidableEq, Repr

/-- Try the candidates in order until one is not rejected. -/
def firstOf (trial : σ → κ → Verdict β × σ) : σ → List κ → Verdict β × σ
  | s, [] => (.rejected, s)
  | s, k :: ks =>
    match trial s k with
    | (.rejected, t) => firstOf trial t ks
    | (v, t) => (v, t)

/-- All of these candidates are rejected, and the last one leaves `t`. -/
def Passed (trial : σ → κ → Verdict β × σ) : σ → List κ → σ → Prop
  | s, [], t => s = t
  | s, k :: ks, t => ∃ u, trial s k = (.rejected, u) ∧ Passed trial u ks t

variable {trial : σ → κ → Verdict β × σ} {s t : σ} {ks : List κ}

theorem firstOf_cons_rejected {k : κ} (h : trial s k = (.rejected, t)) :
    firstOf trial s (k :: ks) = firstOf trial t ks := by
  simp only [firstOf, h]

theorem firstOf_cons_decided {k : κ} {v : Verdict β} (h : trial s k = (v, t))
    (hv : v ≠ .rejected) : firstOf trial s (k :: ks) = (v, t) := by
  cases v with
  | rejected => exact absurd rfl hv
  | accepted b => simp only [firstOf, h]
  | abandoned => simp only [firstOf, h]

theorem Passed.rule_from {inv : List κ → σ → Prop} {pre : List κ}
    (hstep : ∀ pre k u w, inv pre u → trial u k = (.rejected, w) → inv (pre ++ [k]) w)
    (hs : inv pre s) (h : Passed trial s ks t) : inv (pre ++ ks) t := by
  induction ks generalizing pre s with
  | nil =>
      obtain rfl := h
      rwa [List.append_nil]
  | cons k ks ih =>
      obtain ⟨w, hw, hrest⟩ := h
      rw [List.append_cons]
      exact ih (hstep pre k s w hs hw) hrest

/-- **The invariant rule** of a search: what each rejection keeps holds behind them all. -/
theorem Passed.rule {inv : List κ → σ → Prop}
    (hstep : ∀ pre k u w, inv pre u → trial u k = (.rejected, w) → inv (pre ++ [k]) w)
    (hs : inv [] s) (h : Passed trial s ks t) : inv ks t :=
  Passed.rule_from hstep hs h

/-- A search that ends with nothing has tried everything. -/
theorem passed_of_firstOf (h : firstOf trial s ks = (.rejected, t)) : Passed trial s ks t := by
  induction ks generalizing s with
  | nil =>
      cases h
      rfl
  | cons k ks ih =>
      cases hk : trial s k with
      | mk v u =>
        cases v with
        | rejected =>
            rw [firstOf_cons_rejected hk] at h
            exact ⟨u, hk, ih h⟩
        | accepted b =>
            rw [firstOf_cons_decided hk (by simp)] at h
            cases h
        | abandoned =>
            rw [firstOf_cons_decided hk (by simp)] at h
            cases h

/-- A search that is decided is so by one candidate, and all before it were rejected. -/
theorem decided_of_firstOf {v : Verdict β} (hv : v ≠ .rejected) (h : firstOf trial s ks = (v, t)) :
    ∃ pre k post u, ks = pre ++ k :: post ∧ Passed trial s pre u ∧ trial u k = (v, t) := by
  induction ks generalizing s with
  | nil =>
      cases h
      exact absurd rfl hv
  | cons k ks ih =>
      cases hk : trial s k with
      | mk v' u =>
        by_cases hrejected : v' = .rejected
        · subst hrejected
          rw [firstOf_cons_rejected hk] at h
          obtain ⟨pre, k', post, w, rfl, hpassed, htrial⟩ := ih h
          exact ⟨k :: pre, k', post, w, rfl, ⟨u, hk, hpassed⟩, htrial⟩
        -- decided at once, so nothing was tried before it
        · rw [firstOf_cons_decided hk hrejected] at h
          cases h
          exact ⟨[], k, ks, s, rfl, rfl, hk⟩

/-! ### Numbered candidates -/

/-- Of numbered candidates the one that is reached has all smaller ones before it. -/
theorem range_eq_append_cons {n k : Nat} {pre post : List Nat}
    (h : List.range n = pre ++ k :: post) : pre = List.range k ∧ k < n := by
  -- the length of what stands before k is its number
  have hk : k = pre.length := by
    have hget := congrArg (·[pre.length]?) h
    have hlt : pre.length < n := by
      have hlen := congrArg List.length h
      simp only [List.length_range, List.length_append, List.length_cons] at hlen
      omega
    simp only [List.getElem?_append_right (Nat.le_refl _), Nat.sub_self, List.getElem?_cons_zero,
      List.getElem?_range hlt, Option.some.injEq] at hget
    exact hget.symm
  have hlen := congrArg List.length h
  simp only [List.length_range, List.length_append, List.length_cons] at hlen
  refine ⟨?_, by omega⟩
  have htake := congrArg (List.take k) h
  rw [List.take_range, hk, List.take_left, Nat.min_eq_left (by omega)] at htake
  rw [hk]
  exact htake.symm

/-! ### A search within a search

A search in two nested loops is one search through all
devices. -/

theorem firstOf_append {ks' : List κ} : firstOf trial s (ks ++ ks') =
    match firstOf trial s ks with
    | (.rejected, t) => firstOf trial t ks'
    | (v, t) => (v, t) := by
  induction ks generalizing s with
  | nil => rfl
  | cons k ks ih =>
      cases hk : trial s k with
      | mk v u =>
        by_cases hrejected : v = .rejected
        · subst hrejected
          rw [List.cons_append, firstOf_cons_rejected hk, firstOf_cons_rejected hk]
          exact ih
        -- an answer of the first part is the answer of both
        · rw [List.cons_append, firstOf_cons_decided hk hrejected,
            firstOf_cons_decided hk hrejected]
          cases v with
          | rejected => exact absurd rfl hrejected
          | accepted b => rfl
          | abandoned => rfl

/-- **Nested searches are one search** over the candidates of all the lists. -/
theorem firstOf_nested {groups : List ι} (members : ι → List κ) :
    firstOf (fun s g => firstOf trial s (members g)) s groups =
      firstOf trial s (groups.flatMap members) := by
  induction groups generalizing s with
  | nil => rfl
  | cons g groups ih =>
      rw [List.flatMap_cons, firstOf_append]
      simp only [firstOf]
      split
      · exact ih
      · rfl

end Trial
