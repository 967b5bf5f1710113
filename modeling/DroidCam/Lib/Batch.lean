import Mathlib.Data.List.Basic

/-
  DroidCam/Lib/Batch.lean
  =======================
  **A batch of requests, served in order until one is refused.**

  The result is the state the served ones leave, and the position of the request that
  was refused with the reason.  Where the decision is about the request alone, the
  served ones are a prefix of the batch (`Gated.run_eq`); where each request sets one
  entry of a table, the last one for an entry is what stays (`foldl_last`).
-/

namespace Batch

variable {σ α ε κ ν : Type*}

/-- The positions count from `i`. -/
def run (step : σ → α → σ × Option ε) : Nat → σ → List α → σ × Option (Nat × ε)
  | _, s, [] => (s, none)
  | i, s, a :: as =>
    match step s a with
    | (t, none) => run step (i + 1) t as
    | (t, some e) => (t, some (i, e))

/-- A request is served as `f` says when `p` holds of it, and refused without a trace
    otherwise. -/
structure Gated (step : σ → α → σ × Option ε) (p : α → Bool) (f : σ → α → σ) (e : ε) : Prop where
  served : ∀ s a, p a = true → step s a = (f s a, none)
  refused : ∀ s a, p a = false → step s a = (s, some e)

variable {step : σ → α → σ × Option ε} {p : α → Bool} {f : σ → α → σ} {e : ε} {s : σ}
  {as : List α}

theorem Gated.run_from (h : Gated step p f e) (i : Nat) :
    run step i s as =
      ((as.takeWhile p).foldl f s, (as.findIdx? fun a => !p a).map fun k => (i + k, e)) := by
  induction as generalizing i s with
  | nil => rfl
  | cons a as ih =>
      cases ha : p a with
      | true =>
          simp only [run, h.served s a ha, ih, List.takeWhile_cons, ha, if_true, List.foldl_cons,
            List.findIdx?_cons, Bool.not_true, Bool.false_eq_true, if_false, Option.map_map]
          -- the recursive call counts from i + 1, the search in the tail from 0
          refine congrArg _ (congrArg (fun g => Option.map g _) ?_)
          funext k
          simp [Nat.add_assoc, Nat.add_comm 1 k]
      | false =>
          simp [run, h.refused s a ha, ha, List.findIdx?_cons]

/-- **The served requests are those before the first one that is refused.** -/
theorem Gated.run_eq (h : Gated step p f e) :
    run step 0 s as =
      ((as.takeWhile p).foldl f s, (as.findIdx? fun a => !p a).map fun k => (k, e)) := by
  rw [h.run_from]
  simp only [Nat.zero_add]

/-- **The last value set is the one that stays.** -/
theorem foldl_last [DecidableEq κ] {get : σ → κ → ν} {key : α → κ} {value : α → ν} {k : κ}
    (h : ∀ s, ∀ a ∈ as, get (f s a) k = if key a = k then value a else get s k) :
    get (as.foldl f s) k =
      ((as.reverse.find? fun a => key a = k).map value).getD (get s k) := by
  induction as generalizing s with
  | nil => rfl
  | cons a as ih =>
      rw [List.foldl_cons, ih fun s b hb => h s b (List.mem_cons_of_mem a hb),
        h s a List.mem_cons_self, List.reverse_cons, List.find?_append]
      cases as.reverse.find? fun b => key b = k with
      | some b => rfl
      -- nothing later sets k, so the head decides
      | none =>
          by_cases ha : key a = k
          · simp [ha]
          · simp [ha]

end Batch
