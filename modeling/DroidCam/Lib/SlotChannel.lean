import DroidCam.Lib.LabelledRun

/-
  DroidCam/Lib/SlotChannel.lean
  =============================
  **A channel with room for one message.**

  A message can be put into the channel while its slot is empty, and taken from it
  while the slot is full.  So what was delivered and what is in the slot are
  together what was accepted, in that order: nothing is lost, nothing delivered
  twice, nothing overtaken.  A program whose steps simulate those of a channel
  inherits this.
-/

namespace SlotChannel

open LabelledRun

variable {α : Type*}

/-- The slot, with the messages accepted and delivered so far. -/
structure Channel (α : Type*) where
  slot : Option α
  accepted : List α
  delivered : List α

inductive Event (α : Type*) where
  | put (a : α)
  | take (a : α)

/-- The transition relation of a channel. -/
inductive Step : Channel α → Event α → Channel α → Prop
  | put {c : Channel α} {a : α} (h : c.slot = none) :
      Step c (.put a) ⟨some a, c.accepted ++ [a], c.delivered⟩
  | take {c : Channel α} {a : α} (h : c.slot = some a) :
      Step c (.take a) ⟨none, c.accepted, c.delivered ++ [a]⟩

def Channel.empty : Channel α := ⟨none, [], []⟩

/-- What is accepted is delivered or still in the slot. -/
def Channel.Conserved (c : Channel α) : Prop := c.accepted = c.delivered ++ c.slot.toList

theorem Step.conserved {c d : Channel α} {e : Event α} (hc : c.Conserved) (h : Step c e d) :
    d.Conserved := by
  unfold Channel.Conserved at hc ⊢
  cases h with
  | put hslot => simp [hc, hslot]
  | take hslot => simp [hc, hslot]

theorem Run.conserved {c : Channel α} {es : List (Event α)}
    (h : Run Step Channel.empty es c) : c.Conserved := by
  have hempty : (Channel.empty : Channel α).Conserved := rfl
  exact Run.invariant (fun _ _ _ hc hstep => hstep.conserved hc) hempty h

/-- With an empty slot everything is delivered. -/
theorem Channel.Conserved.delivered {c : Channel α} (h : c.Conserved) (hslot : c.slot = none) :
    c.delivered = c.accepted := by
  rw [h, hslot, Option.toList_none, List.append_nil]

end SlotChannel
