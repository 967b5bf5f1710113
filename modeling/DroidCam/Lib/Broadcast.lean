import DroidCam.Lib.LabelledRun
import Mathlib.Logic.Function.Basic

/-
  DroidCam/Lib/Broadcast.lean
  ===========================
  **A log that is broadcast to subscribers who may fall behind.**

  A publisher appends to the log.  Every subscriber has a cursor of its own and
  takes the entry there, but one that lags by more than two entries skips to the
  last.  What a subscriber has taken is its list of receipts; what it is handed is
  related to the entry by `Matches`.
-/

namespace Broadcast

variable {κ α β : Type*} [DecidableEq κ] {Matches : β → α → Prop}

/-- An entry was taken: its position, the length of the log then, and what was
    handed over. -/
structure Receipt (β : Type*) where
  position : Nat
  seen : Nat
  payload : β
deriving DecidableEq, Repr

structure Subscriber (β : Type*) where
  cursor : Nat
  receipts : List (Receipt β)

structure Board (κ α β : Type*) where
  log : List α
  subscribers : κ → Option (Subscriber β)

/-- The position a subscriber takes next from a log of the given length. -/
def nextPosition (length cursor : Nat) : Nat :=
  if cursor + 2 < length then length - 1 else cursor

def Subscriber.fresh : Subscriber β := ⟨0, []⟩

/-- The subscriber has taken the next entry of a log of the given length. -/
def Subscriber.take (c : Subscriber β) (length : Nat) (x : β) : Subscriber β where
  cursor := nextPosition length c.cursor + 1
  receipts := c.receipts ++ [⟨nextPosition length c.cursor, length, x⟩]

/-- The subscriber has passed the next entry, but was handed nothing. -/
def Subscriber.lose (c : Subscriber β) (length : Nat) : Subscriber β :=
  { c with cursor := nextPosition length c.cursor + 1 }

def Board.publish (b : Board κ α β) (a : α) : Board κ α β := { b with log := b.log ++ [a] }

def Board.set (b : Board κ α β) (k : κ) (c : Option (Subscriber β)) : Board κ α β :=
  { b with subscribers := Function.update b.subscribers k c }

def Board.clear (b : Board κ α β) : Board κ α β := { b with log := [] }

inductive Event (κ α β : Type*) where
  | publish (a : α)
  | subscribe (k : κ)
  | unsubscribe (k : κ)
  | take (k : κ) (x : β)
  | lose (k : κ)
  | clear

/-- The steps of the log and its subscribers; it is cleared when there are none. -/
inductive Step (Matches : β → α → Prop) : Board κ α β → Event κ α β → Board κ α β → Prop
  | publish (b : Board κ α β) (a : α) : Step Matches b (.publish a) (b.publish a)
  | subscribe (b : Board κ α β) (k : κ) (h : b.subscribers k = none) :
      Step Matches b (.subscribe k) (b.set k (some .fresh))
  | unsubscribe (b : Board κ α β) (k : κ) : Step Matches b (.unsubscribe k) (b.set k none)
  | take (b : Board κ α β) (k : κ) (c : Subscriber β) (x : β) (a : α) (h : b.subscribers k = some c)
      (hnew : c.cursor < b.log.length) (ha : b.log[nextPosition b.log.length c.cursor]? = some a)
      (hx : Matches x a) : Step Matches b (.take k x) (b.set k (some (c.take b.log.length x)))
  | lose (b : Board κ α β) (k : κ) (c : Subscriber β) (h : b.subscribers k = some c)
      (hnew : c.cursor < b.log.length) :
      Step Matches b (.lose k) (b.set k (some (c.lose b.log.length)))
  | clear (b : Board κ α β) (h : ∀ k, b.subscribers k = none) : Step Matches b .clear b.clear

/-- A subscriber with something to take moves on, to one of the last two entries. -/
theorem nextPosition_bounds {length cursor : Nat} (h : cursor < length) :
    cursor ≤ nextPosition length cursor ∧ nextPosition length cursor < length ∧
      length ≤ nextPosition length cursor + 2 := by
  unfold nextPosition
  split <;> omega

/-! ### Soundness

What a subscriber holds is judged against the log as it is now. An entry never leaves
its place while anyone is subscribed, so publishing keeps what was sound, and the log is
cleared only when there is nobody left to judge. -/

/-- A receipt is one of an entry that was in the log, and among its last two. -/
structure Receipt.Sound (Matches : β → α → Prop) (log : List α) (r : Receipt β) : Prop where
  written : r.position < r.seen
  recent : r.seen ≤ r.position + 2
  seen : r.seen ≤ log.length
  payload : ∃ a, log[r.position]? = some a ∧ Matches r.payload a

/-- A subscriber is within the log, and has taken entries of it in order, each at
    most once. -/
structure Subscriber.Sound (Matches : β → α → Prop) (log : List α) (c : Subscriber β) : Prop where
  within : c.cursor ≤ log.length
  increasing : c.receipts.Pairwise fun r r' => r.position < r'.position
  passed : ∀ r ∈ c.receipts, r.position < c.cursor
  receipts : ∀ r ∈ c.receipts, r.Sound Matches log

def Board.Sound (Matches : β → α → Prop) (b : Board κ α β) : Prop :=
  ∀ k c, b.subscribers k = some c → c.Sound Matches b.log

theorem Receipt.Sound.publish {log : List α} {r : Receipt β} (h : r.Sound Matches log) (a : α) :
    r.Sound Matches (log ++ [a]) where
  written := h.written
  recent := h.recent
  seen := by
    have := h.seen
    simp only [List.length_append]
    omega
  payload := by
    obtain ⟨a', ha, hx⟩ := h.payload
    have hlt : r.position < log.length := Nat.lt_of_lt_of_le h.written h.seen
    exact ⟨a', (List.getElem?_append_left hlt).trans ha, hx⟩

theorem Subscriber.Sound.publish {log : List α} {c : Subscriber β} (h : c.Sound Matches log)
    (a : α) : c.Sound Matches (log ++ [a]) where
  within := by
    have := h.within
    simp only [List.length_append]
    omega
  increasing := h.increasing
  passed := h.passed
  receipts := fun r hr => (h.receipts r hr).publish a

theorem Subscriber.Sound.fresh (log : List α) : (Subscriber.fresh (β := β)).Sound Matches log where
  within := Nat.zero_le _
  increasing := List.Pairwise.nil
  passed := fun r hr => absurd hr (by simp [Subscriber.fresh])
  receipts := fun r hr => absurd hr (by simp [Subscriber.fresh])

theorem Subscriber.Sound.lose {log : List α} {c : Subscriber β} (h : c.Sound Matches log)
    (hnew : c.cursor < log.length) : (c.lose log.length).Sound Matches log := by
  obtain ⟨hle, hlt, -⟩ := nextPosition_bounds hnew
  refine ⟨hlt, h.increasing, fun r hr => ?_, h.receipts⟩
  have := h.passed r hr
  simp only [Subscriber.lose]
  omega

theorem Subscriber.Sound.take {log : List α} {c : Subscriber β} {x : β} {a : α}
    (h : c.Sound Matches log) (hnew : c.cursor < log.length)
    (ha : log[nextPosition log.length c.cursor]? = some a) (hx : Matches x a) :
    (c.take log.length x).Sound Matches log := by
  obtain ⟨hle, hlt, hrecent⟩ := nextPosition_bounds hnew
  refine ⟨hlt, ?_, fun r hr => ?_, fun r hr => ?_⟩
  · refine List.pairwise_append.mpr ⟨h.increasing, List.pairwise_singleton _ _, ?_⟩
    -- what was taken before lies behind the cursor, and the new place is not behind it
    intro r hr r' hr'
    rw [List.mem_singleton.mp hr']
    exact Nat.lt_of_lt_of_le (h.passed r hr) hle
  · rcases List.mem_append.mp hr with hr | hr
    · have := h.passed r hr
      simp only [Subscriber.take]
      omega
    · rw [List.mem_singleton.mp hr]
      exact Nat.lt_succ_self _
  · rcases List.mem_append.mp hr with hr | hr
    · exact h.receipts r hr
    · rw [List.mem_singleton.mp hr]
      exact ⟨hlt, hrecent, Nat.le_refl _, a, ha, hx⟩

theorem Board.Sound.set {b : Board κ α β} (hb : b.Sound Matches) (k : κ) {c : Option (Subscriber β)}
    (hc : ∀ c', c = some c' → c'.Sound Matches b.log) : (b.set k c).Sound Matches := by
  intro k' c' hk'
  by_cases hkk : k' = k
  · subst hkk
    exact hc c' (by simpa [Board.set] using hk')
  · exact hb k' c' (by simpa [Board.set, hkk] using hk')

theorem Board.Sound.step {b b' : Board κ α β} {e : Event κ α β} (hb : b.Sound Matches)
    (h : Step Matches b e b') : b'.Sound Matches := by
  cases h with
  | publish a => exact fun k c hc => (hb k c hc).publish a
  | subscribe k hfree =>
      refine hb.set k fun c hc => ?_
      cases hc
      exact .fresh _
  | unsubscribe k => exact hb.set k fun c hc => by cases hc
  | take k c x a hk hnew ha hx =>
      refine hb.set k fun c' hc => ?_
      cases hc
      exact (hb k c hk).take hnew ha hx
  | lose k c hk hnew =>
      refine hb.set k fun c' hc => ?_
      cases hc
      exact (hb k c hk).lose hnew
  -- nobody is subscribed, so there is nothing to prove
  | clear hnone => exact fun k c hc => absurd (hc.symm.trans (hnone k)) (by simp)

/-- **Every run delivers soundly.** -/
theorem Board.Sound.run {b b' : Board κ α β} {es : List (Event κ α β)} (hb : b.Sound Matches)
    (h : LabelledRun.Run (Step Matches) b es b') : b'.Sound Matches :=
  LabelledRun.Run.invariant (fun _ _ _ hs hstep => hs.step hstep) hb h

end Broadcast
