import DroidCam.HeapQueue
import DroidCam.Queue
import Mathlib.Data.List.Perm.Subperm

/-
  DroidCam/HeapQueueLayout.lean
  =============================
  What the nodes of a queue look like before each statement that runs under the
  mutex.

  At rest the queue is one chain from `first`.  In a call there are the nodes in hand
  and the chain behind them: a node that is being taken out, the rest of a queue that
  is being cleared.  A statement keeps this, and it touches no node of another
  thread.
-/

namespace DroidCam.HeapQueue

open HeapChain Queue

/-! ### The list that the queue stands for

Between two calls the chain from first is the list, last its end, and size its length.
Nothing is said of the pointer last beyond this, which is why every call that changes an
end has to set both. -/

/-- The calls on a list. -/
inductive ListStep : List Ptr → Call → List Ptr → Prop where
  | init (xs : List Ptr) : ListStep xs .init []
  | add (xs : List Ptr) (item : Ptr) : ListStep xs (.add item) (queueAdd xs item)
  | clear (xs : List Ptr) : ListStep xs .clear queueClear
  | next (xs : List Ptr) (backbuffer : UInt64) :
      ListStep xs (.next backbuffer ((queueNext xs backbuffer.toNat).1.getD NULL))
        (queueNext xs backbuffer.toNat).2

structure Represents (h : Heap Ptr Ptr) (q : QueueVars) (cells : List (Ptr × Ptr)) : Prop where
  chain : Segment h q.first cells NULL
  last : q.last = lastAddress NULL cells
  size : q.size.toNat = cells.length

variable {h h' : Heap Ptr Ptr} {q q' : QueueVars} {cells : List (Ptr × Ptr)}

/-- There are fewer nodes than pointers, so `size` does not wrap. -/
theorem length_lt_of_chain {p : Ptr} (hnull : h NULL = none) (hseg : Segment h p cells NULL) :
    cells.length < UInt64.size := by
  have hnot : NULL ∉ addresses cells := by
    intro hmem
    obtain ⟨node, hcell⟩ := hseg.live hmem
    rw [hnull] at hcell
    cases hcell
  have hnodup : ((NULL :: addresses cells).map UInt64.toNat).Nodup :=
    (List.nodup_cons.mpr ⟨hnot, hseg.nodup hnull⟩).map fun a b => UInt64.toNat_inj.mp
  have hrange : (NULL :: addresses cells).map UInt64.toNat ⊆ List.range UInt64.size := by
    intro n hn
    obtain ⟨a, -, rfl⟩ := List.mem_map.mp hn
    exact List.mem_range.mpr a.toNat_lt_size
  have hlength := (hnodup.subperm hrange).length_le
  rw [List.length_range, List.length_map, List.length_cons, length_addresses] at hlength
  omega

/-! ### Under the mutex

A call that holds the mutex leaves the chain for a while. What holds instead depends on
the statement that comes next; in front is the node that the call has taken out, if it
has one. -/

/-- The queue as its lock finds it and its unlock leaves it. -/
structure Stands (q : QueueVars) (xs : List Ptr) (front : List (Ptr × Ptr)) (m : Ptr)
    (cells : List (Ptr × Ptr)) : Prop where
  front : front = []
  first : m = q.first
  last : q.last = lastAddress NULL cells
  size : q.size.toNat = cells.length
  items : payloads cells = xs

/-- The node at `elem` has been taken out. -/
structure Popped (q : QueueVars) (xs : List Ptr) (backbuffer : UInt64) (elem item m : Ptr)
    (cells : List (Ptr × Ptr)) : Prop where
  first : m = q.first
  last : q.last = lastAddress NULL ((elem, item) :: cells)
  items : xs = item :: payloads cells
  allowed : backbuffer.toNat < xs.length

/-- What holds before each statement: the nodes in hand are `front`, which leads to
    `m`, and `cells` from there to the end; `xs` is the list before the call. -/
def Facts (q : QueueVars) (xs : List Ptr) (front : List (Ptr × Ptr)) (m : Ptr)
    (cells : List (Ptr × Ptr)) : Pc → Prop
  | .addTest _ _ | .clearFirst | .nextTest _ => Stands q xs front m cells
  | .addFirst _ _ => Stands q xs front m cells ∧ q.first = NULL
  | .addLink _ _ => Stands q xs front m cells ∧ q.first ≠ NULL
  | .addLast elem item => ∃ old, front = [] ∧ m = q.first ∧ cells = old ++ [(elem, item)] ∧
      q.size.toNat = old.length ∧ payloads old = xs
  | .addSize item => ∃ old, front = [] ∧ m = q.first ∧ cells = old ++ [(q.last, item)] ∧
      q.size.toNat = old.length ∧ payloads old = xs
  | .clearWhile elem => front = [] ∧ m = elem
  | .clearElem elem => front = [] ∧ m = elem ∧ elem ≠ NULL
  | .clearFree tmp elem => ∃ item, front = [(tmp, item)] ∧ m = elem
  | .resetSize => front = [] ∧ m = NULL
  | .resetLast => front = [] ∧ m = NULL ∧ q.size = 0
  | .resetFirst => front = [] ∧ m = NULL ∧ q.size = 0 ∧ q.last = NULL
  | .nextElem backbuffer => Stands q xs front m cells ∧ backbuffer < q.size
  | .nextFirst backbuffer elem =>
      Stands q xs front m cells ∧ backbuffer < q.size ∧ elem = q.first
  | .nextItem backbuffer elem => ∃ item, front = [(elem, item)] ∧
      Popped q xs backbuffer elem item m cells ∧ q.size.toNat = cells.length + 1
  | .nextFree backbuffer elem item => front = [(elem, item)] ∧
      Popped q xs backbuffer elem item m cells ∧ q.size.toNat = cells.length + 1
  | .nextSize backbuffer item => ∃ elem, front = [] ∧
      Popped q xs backbuffer elem item m cells ∧ q.size.toNat = cells.length + 1
  | .nextEmpty backbuffer item => ∃ elem, front = [] ∧
      Popped q xs backbuffer elem item m cells ∧ q.size.toNat = cells.length
  | .nextLast backbuffer item => ∃ elem, front = [] ∧
      Popped q xs backbuffer elem item m cells ∧ q.size.toNat = cells.length ∧ q.first = NULL
  | .unlock call => ∃ ys, ListStep xs call ys ∧ Stands q ys front m cells
  | .idle | .addCalloc _ | .addPayload _ _ | .addLock _ _ | .clearLock | .nextLock _ => False

/-- The nodes under the mutex are those at `foot`. -/
def Layout (h : Heap Ptr Ptr) (q : QueueVars) (xs foot : List Ptr) (pc : Pc) : Prop :=
  ∃ p front m cells, Segment h p front m ∧ Segment h m cells NULL ∧
    foot = addresses front ++ addresses cells ∧ Facts q xs front m cells pc

variable {xs foot foot' : List Ptr} {pc pc' : Pc}

/-- Stores and allocations elsewhere do not matter. -/
theorem Layout.frame (hl : Layout h q xs foot pc) (hsame : ∀ a ∈ foot, h' a = h a) :
    Layout h' q xs foot pc := by
  obtain ⟨p, front, m, cells, hfront, hcells, rfl, hfacts⟩ := hl
  refine ⟨p, front, m, cells, hfront.frame ?_, hcells.frame ?_, rfl, hfacts⟩
  · exact fun a ha => hsame a (List.mem_append_left _ ha)
  · exact fun a ha => hsame a (List.mem_append_right _ ha)

theorem Layout.inside (hl : Layout h q xs foot pc) : pc.Inside := by
  obtain ⟨p, front, m, cells, -, -, -, hfacts⟩ := hl
  cases pc with
  | idle | addCalloc | addPayload | addLock | clearLock | nextLock => exact hfacts.elim
  | _ => trivial

/-- The nodes that a thread has in hand are there, and are all different. -/
theorem Layout.live (hl : Layout h q xs foot pc) {a : Ptr} (ha : a ∈ foot) :
    ∃ node, h a = some node := by
  obtain ⟨p, front, m, cells, hfront, hcells, rfl, -⟩ := hl
  rcases List.mem_append.mp ha with hmem | hmem
  · exact hfront.live hmem
  · exact hcells.live hmem

/-- A node that has been made, and that nothing leads to. -/
def Made (h : Heap Ptr Ptr) (foot : List Ptr) (pc : Pc) : Prop :=
  ∀ elem item, pc.node = some (elem, item) → h elem = some ⟨item, NULL⟩ ∧ elem ∉ foot

/-- What a statement does to the nodes: those of other threads stay as they are and
    out of the queue. -/
structure Kept (h : Heap Ptr Ptr) (foot : List Ptr) (pc : Pc) (h' : Heap Ptr Ptr)
    (foot' : List Ptr) (pc' : Pc) : Prop where
  null : h' NULL = none
  others : ∀ a, a ∉ foot → (∀ item, pc.node ≠ some (a, item)) → h' a = h a ∧ a ∉ foot'
  made : Made h' foot' pc'

/-- A statement that touches no node. -/
theorem Kept.same (hnull : h NULL = none) (hmade : Made h foot pc)
    (hnode : pc'.node = none ∨ pc'.node = pc.node) : Kept h foot pc h foot pc' where
  null := hnull
  others _ ha _ := ⟨rfl, ha⟩
  made elem item hpc := by
    rcases hnode with hnone | hsame
    · rw [hnone] at hpc
      cases hpc
    · exact hmade elem item (hsame ▸ hpc)

/-- The new node of a holder is the one it had. -/
theorem Work.node (hw : Work h q pc pc' h' q') : pc'.node = none ∨ pc'.node = pc.node := by
  cases hw with
  | addTest | addTestNot => exact Or.inr rfl
  | _ => exact Or.inl rfl

/-- A statement that moves neither a node nor the place in the chain: what holds behind
    it is about the same nodes. -/
theorem Work.keeps_of_facts (hw : Work h q pc pc' h q') (hnull : h NULL = none)
    (hmade : Made h foot pc) (hl : Layout h q xs foot pc)
    (hfacts : ∀ p front m cells, Segment h p front m → Segment h m cells NULL →
      Facts q xs front m cells pc → Facts q' xs front m cells pc') :
    ∃ foot', Layout h q' xs foot' pc' ∧ Kept h foot pc h foot' pc' := by
  obtain ⟨p, front, m, cells, hfront, hcells, hfoot, hold⟩ := hl
  have hnew := hfacts p front m cells hfront hcells hold
  exact ⟨foot, ⟨p, front, m, cells, hfront, hcells, hfoot, hnew⟩, Kept.same hnull hmade hw.node⟩

/-- `q->first = elem` in an empty queue. -/
theorem addFirst_keeps {elem item : Ptr} (hnull : h NULL = none)
    (hmade : Made h foot (.addFirst elem item)) (hl : Layout h q xs foot (.addFirst elem item)) :
    ∃ foot', Layout h { q with first := elem } xs foot' (.addLast elem item) ∧
      Kept h foot (.addFirst elem item) h foot' (.addLast elem item) := by
  obtain ⟨p, front, m, cells, hfront, hcells, rfl, ⟨rfl, rfl, hlast, hsize, rfl⟩, hfirst⟩ := hl
  obtain ⟨hcell, -⟩ := hmade elem item rfl
  obtain rfl : cells = [] := (hcells.first_eq hnull).mp hfirst
  refine ⟨[elem], ⟨elem, [], elem, [(elem, item)], rfl, ⟨rfl, NULL, hcell, rfl⟩, rfl,
    [], rfl, rfl, rfl, hsize, rfl⟩, hnull, fun a ha hown => ⟨rfl, ?_⟩, fun _ _ hpc => by cases hpc⟩
  intro hmem
  cases List.mem_singleton.mp hmem
  exact hown item rfl

/-- `q->last->next = elem` behind the others. -/
theorem addLink_keeps {elem item : Ptr} {node : Node Ptr Ptr} (hnull : h NULL = none)
    (hmade : Made h foot (.addLink elem item)) (hl : Layout h q xs foot (.addLink elem item))
    (hnode : h q.last = some node) :
    ∃ foot', Layout (Function.update h q.last (some { node with next := elem })) q xs foot'
        (.addLast elem item) ∧
      Kept h foot (.addLink elem item)
        (Function.update h q.last (some { node with next := elem })) foot'
        (.addLast elem item) := by
  obtain ⟨p, front, m, cells, hfront, hcells, rfl, ⟨rfl, rfl, hlast, hsize, rfl⟩, hfirst⟩ := hl
  obtain ⟨hcell, hout⟩ := hmade elem item rfl
  -- first is not NULL, so there is a last node to link to
  have hne : cells ≠ [] := fun hnil => hfirst ((hcells.first_eq hnull).mpr hnil)
  obtain ⟨old, ⟨last, payload⟩, hconcat⟩ := (List.eq_nil_or_concat cells).resolve_left hne
  obtain rfl : cells = old ++ [(last, payload)] := hconcat.trans List.concat_eq_append
  obtain rfl : q.last = last := by rw [hlast, lastAddress_concat]
  obtain ⟨n, -, -, next, hnext, hend⟩ := segment_append.mp hcells
  obtain rfl : node = ⟨payload, next⟩ := Option.some.inj (hnode.symm.trans hnext)
  have hapart : q.last ∉ addresses old := by
    have hnodup := hcells.nodup hnull
    rw [addresses_append] at hnodup
    exact fun hmem => List.disjoint_of_nodup_append hnodup hmem List.mem_cons_self
  have hmem : q.last ∈ addresses (old ++ [(q.last, payload)]) := by simp
  -- the new node is not linked yet, so it is not the last one
  have helem : elem ≠ q.last := fun h => hout (h ▸ hmem)
  have hlinked := hcells.link hapart elem
  have hcell' : Function.update h q.last (some ⟨payload, elem⟩) elem = some ⟨item, NULL⟩ := by
    rw [Function.update_of_ne helem, hcell]
  have hchain : Segment (Function.update h q.last (some ⟨payload, elem⟩)) q.first
      ((old ++ [(q.last, payload)]) ++ [(elem, item)]) NULL :=
    segment_append.mpr ⟨elem, hlinked, rfl, NULL, hcell', rfl⟩
  refine ⟨addresses ((old ++ [(q.last, payload)]) ++ [(elem, item)]),
    ⟨q.first, [], q.first, _, rfl, hchain, rfl, old ++ [(q.last, payload)], rfl, rfl, rfl,
      hsize, rfl⟩, ?_, ?_, fun _ _ hpc => by cases hpc⟩
  · by_cases hl : NULL = q.last
    · rw [← hl, hnull] at hnode
      cases hnode
    · rw [Function.update_of_ne hl, hnull]
  · intro a ha hown
    have hne : a ≠ q.last := fun h => ha (h ▸ hmem)
    refine ⟨Function.update_of_ne hne _ _, fun hin => ?_⟩
    rw [addresses_append] at hin
    -- the node is one of the chain now, and the thread that brought it has none of its
    -- own any more
    rcases List.mem_append.mp hin with hold | hnew
    · exact ha hold
    · cases List.mem_singleton.mp hnew
      exact hown item rfl

/-- `free` of the node in hand. -/
theorem free_keeps {a x p m : Ptr} (pc' : Pc) (hnull : h NULL = none)
    (hfront : Segment h p [(a, x)] m) (hcells : Segment h m cells NULL)
    (hnode : pc'.node = none) :
    Segment (Function.update h a none) m cells NULL ∧
      Kept h (addresses [(a, x)] ++ addresses cells) pc (Function.update h a none)
        (addresses cells) pc' := by
  have hchain : Segment h p ([(a, x)] ++ cells) NULL := segment_append.mpr ⟨m, hfront, hcells⟩
  have hout : a ∉ addresses cells := (List.nodup_cons.mp (hchain.nodup hnull)).1
  refine ⟨hcells.update hout none, ?_, ?_, ?_⟩
  · by_cases ha : NULL = a
    · rw [ha, Function.update_self]
    · rw [Function.update_of_ne ha, hnull]
  · intro b hb hown
    have hne : b ≠ a := fun hba => hb (hba ▸ List.mem_cons_self)
    exact ⟨Function.update_of_ne hne _ _, fun hmem => hb (List.mem_append_right _ hmem)⟩
  · intro elem item hpc
    rw [hnode] at hpc
    cases hpc

/-- `q->size++`. -/
theorem addSize_stands {front : List (Ptr × Ptr)} {m item : Ptr} (hnull : h NULL = none)
    (hcells : Segment h m cells NULL) (hfacts : Facts q xs front m cells (.addSize item)) :
    Facts { q with size := q.size + 1 } xs front m cells (.unlock (.add item)) := by
  obtain ⟨old, hempty, hfirst, rfl, hsize, rfl⟩ := hfacts
  have hbound := length_lt_of_chain hnull hcells
  rw [List.length_append, List.length_singleton, ← hsize] at hbound
  refine ⟨payloads old ++ [item], .add _ item, hempty, hfirst, ?_, ?_, ?_⟩
  · exact (lastAddress_concat NULL old (q.last, item)).symm
  · show (q.size + 1).toNat = _
    rw [UInt64.toNat_add, List.length_append, List.length_singleton, ← hsize]
    exact Nat.mod_eq_of_lt hbound
  · rw [payloads_append, payloads_cons, payloads_nil]

theorem nextTestNot_step {front : List (Ptr × Ptr)} {m : Ptr} {backbuffer : UInt64}
    (hstands : Stands q xs front m cells) (hsize : ¬ backbuffer < q.size) :
    ListStep xs (.next backbuffer NULL) xs := by
  have hle : xs.length ≤ backbuffer.toNat := by
    rw [← hstands.items, length_payloads, ← hstands.size]
    exact Nat.not_lt.mp fun hlt => hsize (UInt64.lt_iff_toNat_lt.mpr hlt)
  have hstep := ListStep.next xs backbuffer
  rw [queueNext_of_le hle] at hstep
  exact hstep

/-- `q->first = elem->next`: the first node is in hand. -/
theorem nextFirst_layout {backbuffer : UInt64} {elem : Ptr} {node : Node Ptr Ptr}
    (hl : Layout h q xs foot (.nextFirst backbuffer elem)) (hcell : h elem = some node) :
    Layout h { q with first := node.next } xs foot (.nextItem backbuffer elem) := by
  obtain ⟨p, front, m, cells, -, hcells, hfoot, ⟨rfl, rfl, hlast, hsize, rfl⟩, hmore, rfl⟩ := hl
  have hlt : backbuffer.toNat < cells.length := hsize ▸ UInt64.lt_iff_toNat_lt.mp hmore
  cases cells with
  | nil => exact absurd hlt (Nat.not_lt_zero _)
  | cons c cells =>
      obtain ⟨hc, next, hcell', hrest⟩ := hcells
      rw [← hc] at hcell'
      obtain rfl : node = ⟨c.2, next⟩ := Option.some.inj (hcell.symm.trans hcell')
      refine ⟨q.first, [(q.first, c.2)], next, cells, ⟨rfl, next, hcell, rfl⟩, hrest, ?_, c.2, rfl,
        ⟨rfl, ?_, rfl, ?_⟩, hsize⟩
      · rw [hfoot, hc]
        rfl
      · rw [hlast, hc]
      · rw [length_payloads]
        exact hlt

theorem Popped.resize {backbuffer : UInt64} {elem item m : Ptr}
    (hp : Popped q xs backbuffer elem item m cells) (size : UInt64) :
    Popped { q with size } xs backbuffer elem item m cells :=
  ⟨hp.first, hp.last, hp.items, hp.allowed⟩

theorem Popped.step {backbuffer : UInt64} {elem item m : Ptr}
    (hp : Popped q xs backbuffer elem item m cells) :
    ListStep xs (.next backbuffer item) (payloads cells) := by
  have hallowed := hp.allowed
  have hstep := ListStep.next xs backbuffer
  rw [hp.items] at hallowed hstep ⊢
  rw [queueNext_cons hallowed] at hstep
  exact hstep

/-- The first of the nodes that are left is in hand. -/
theorem clearElem_layout {tmp : Ptr} {node : Node Ptr Ptr}
    (hl : Layout h q xs foot (.clearElem tmp)) (hcell : h tmp = some node) :
    Layout h q xs foot (.clearFree tmp node.next) := by
  obtain ⟨p, front, m, cells, hfront, hcells, hfoot, rfl, rfl, hne⟩ := hl
  cases cells with
  | nil => exact absurd hcells hne
  | cons c cells =>
      obtain ⟨rfl, next, hcell', hrest⟩ := hcells
      obtain rfl : node = ⟨c.2, next⟩ := Option.some.inj (hcell.symm.trans hcell')
      exact ⟨c.1, [c], next, cells, ⟨rfl, next, hcell, rfl⟩, hrest, hfoot, c.2, rfl, rfl⟩

/-- `elem->item` of the node in hand. -/
theorem nextItem_facts {front : List (Ptr × Ptr)} {p m elem : Ptr} {backbuffer : UInt64}
    {node : Node Ptr Ptr} (hfront : Segment h p front m) (hcell : h elem = some node)
    (hfacts : Facts q xs front m cells (.nextItem backbuffer elem)) :
    Facts q xs front m cells (.nextFree backbuffer elem node.payload) := by
  obtain ⟨item, rfl, hpopped, hsize⟩ := hfacts
  obtain ⟨-, next, hcell', -⟩ := hfront
  obtain rfl : node = ⟨item, next⟩ := Option.some.inj (hcell.symm.trans hcell')
  exact ⟨rfl, hpopped, hsize⟩

/-- `q->size--`. -/
theorem nextSize_facts {front : List (Ptr × Ptr)} {m item : Ptr} {backbuffer : UInt64}
    (hfacts : Facts q xs front m cells (.nextSize backbuffer item)) :
    Facts { q with size := q.size - 1 } xs front m cells (.nextEmpty backbuffer item) := by
  obtain ⟨elem, hempty, hpopped, hsize⟩ := hfacts
  refine ⟨elem, hempty, hpopped.resize _, ?_⟩
  have hone : (1 : UInt64) ≤ q.size := UInt64.le_iff_toNat_le.mpr (hsize ▸ Nat.le_add_left _ _)
  show (q.size - 1).toNat = cells.length
  rw [UInt64.toNat_sub_of_le _ _ hone, hsize]
  rfl

/-- With nodes left, `last` is still the last of them. -/
theorem nextEmptyNot_facts {front : List (Ptr × Ptr)} {m item : Ptr} {backbuffer : UInt64}
    (hcells : Segment h m cells NULL) (hfirst : q.first ≠ NULL)
    (hfacts : Facts q xs front m cells (.nextEmpty backbuffer item)) :
    Facts q xs front m cells (.unlock (.next backbuffer item)) := by
  obtain ⟨elem, hempty, hpopped, hsize⟩ := hfacts
  refine ⟨_, hpopped.step, ?_⟩
  cases cells with
  | nil => exact absurd (hpopped.first.symm.trans hcells) hfirst
  | cons c cells =>
      have hlast := hpopped.last
      rw [lastAddress_cons_cons] at hlast
      exact ⟨hempty, hpopped.first, hlast, hsize, rfl⟩

/-- **A statement under the mutex** keeps its invariant. -/
theorem Work.keeps (hnull : h NULL = none) (hmade : Made h foot pc) (hl : Layout h q xs foot pc)
    (hw : Work h q pc pc' h' q') :
    ∃ foot', Layout h' q' xs foot' pc' ∧ Kept h foot pc h' foot' pc' := by
  have hwork := hw
  cases hw with
  | addFirst => exact addFirst_keeps hnull hmade hl
  | addLink hcell => exact addLink_keeps hnull hmade hl hcell
  | addTest hfirst | addTestNot hfirst =>
      -- the test that led here is part of what holds now
      refine hwork.keeps_of_facts hnull hmade hl fun p front m cells _ _ hstands => ?_
      exact ⟨hstands, hfirst⟩
  | addLast => exact hwork.keeps_of_facts hnull hmade hl fun _ _ _ _ _ _ hfacts => hfacts
  | addSize =>
      refine hwork.keeps_of_facts hnull hmade hl fun p front m cells _ hcells hfacts => ?_
      exact addSize_stands hnull hcells hfacts
  | clearFirst =>
      refine hwork.keeps_of_facts hnull hmade hl fun p front m cells _ _ hstands => ?_
      exact ⟨hstands.front, hstands.first⟩
  | clearWhile helem =>
      refine hwork.keeps_of_facts hnull hmade hl fun p front m cells _ _ hfacts => ?_
      exact ⟨hfacts.1, hfacts.2, helem⟩
  | clearDone => exact hwork.keeps_of_facts hnull hmade hl fun _ _ _ _ _ _ hfacts => hfacts
  | clearElem hcell => exact ⟨foot, clearElem_layout hl hcell, Kept.same hnull hmade hwork.node⟩
  | @clearFree tmp elem =>
      -- the node in front is freed, and the rest of the chain is cleared on its own
      obtain ⟨p, front, m, cells, hfront, hcells, rfl, item, rfl, rfl⟩ := hl
      obtain ⟨hrest, hkept⟩ := free_keeps (.clearWhile m) hnull hfront hcells rfl
      exact ⟨addresses cells, ⟨m, [], m, cells, rfl, hrest, rfl, rfl, rfl⟩, hkept⟩
  | resetSize =>
      refine hwork.keeps_of_facts hnull hmade hl fun p front m cells _ _ hfacts => ?_
      exact ⟨hfacts.1, hfacts.2, rfl⟩
  | resetLast =>
      refine hwork.keeps_of_facts hnull hmade hl fun p front m cells _ _ hfacts => ?_
      obtain ⟨hempty, hm, hsize⟩ := hfacts
      exact ⟨hempty, hm, hsize, rfl⟩
  | resetFirst =>
      refine hwork.keeps_of_facts hnull hmade hl fun p front m cells _ hcells hfacts => ?_
      obtain ⟨hempty, rfl, hsize, hlast⟩ := hfacts
      -- nothing is left, and the call is done with the empty list
      obtain rfl : cells = [] := (hcells.first_eq hnull).mp rfl
      exact ⟨[], .clear xs, hempty, rfl, hlast, congrArg UInt64.toNat hsize, rfl⟩
  | nextTest hsize =>
      refine hwork.keeps_of_facts hnull hmade hl fun p front m cells _ _ hstands => ?_
      exact ⟨hstands, hsize⟩
  | nextTestNot hsize =>
      refine hwork.keeps_of_facts hnull hmade hl fun p front m cells _ _ hstands => ?_
      exact ⟨xs, nextTestNot_step hstands hsize, hstands⟩
  | nextElem =>
      refine hwork.keeps_of_facts hnull hmade hl fun p front m cells _ _ hfacts => ?_
      exact ⟨hfacts.1, hfacts.2, rfl⟩
  | nextFirst hcell => exact ⟨foot, nextFirst_layout hl hcell, Kept.same hnull hmade hwork.node⟩
  | nextItem hcell =>
      refine hwork.keeps_of_facts hnull hmade hl fun p front m cells hfront _ hfacts => ?_
      exact nextItem_facts hfront hcell hfacts
  | @nextFree backbuffer elem item =>
      obtain ⟨p, front, m, cells, hfront, hcells, rfl, rfl, hpopped, hsize⟩ := hl
      obtain ⟨hrest, hkept⟩ := free_keeps (.nextSize backbuffer item) hnull hfront hcells rfl
      exact ⟨addresses cells, ⟨m, [], m, cells, rfl, hrest, rfl, elem, rfl, hpopped, hsize⟩, hkept⟩
  | nextSize => exact hwork.keeps_of_facts hnull hmade hl fun _ _ _ _ _ _ => nextSize_facts
  | nextEmpty hfirst =>
      refine hwork.keeps_of_facts hnull hmade hl fun p front m cells _ _ hfacts => ?_
      obtain ⟨elem, hempty, hpopped, hsize⟩ := hfacts
      exact ⟨elem, hempty, hpopped, hsize, hfirst⟩
  | nextEmptyNot hfirst =>
      refine hwork.keeps_of_facts hnull hmade hl fun p front m cells _ hcells hfacts => ?_
      exact nextEmptyNot_facts hcells hfirst hfacts
  | nextLast =>
      refine hwork.keeps_of_facts hnull hmade hl fun p front m cells _ hcells hfacts => ?_
      obtain ⟨elem, hempty, hpopped, hsize, hfirst⟩ := hfacts
      -- first is NULL, so there are no cells and last must be NULL as well
      have hnil : cells = [] := (hcells.first_eq hnull).mp (hpopped.first.trans hfirst)
      refine ⟨_, hpopped.step, hempty, hpopped.first, ?_, hsize, rfl⟩
      rw [hnil, lastAddress_nil]

/-! ### Pointers and threads -/

/-- A chain that is not empty starts at a node. -/
theorem head_live {p : Ptr} (hcells : Segment h p cells NULL) (hne : cells ≠ []) :
    ∃ node, h p = some node := by
  cases cells with
  | nil => exact absurd rfl hne
  | cons c cells =>
      obtain ⟨rfl, next, hcell, -⟩ := hcells
      exact ⟨_, hcell⟩

/-- A pointer that a statement goes through has its node. -/
theorem Layout.derefs {p : Ptr} (hnull : h NULL = none) (hl : Layout h q xs foot pc)
    (hderef : pc.derefs q = some p) : ∃ node, h p = some node := by
  obtain ⟨start, front, m, cells, hfront, hcells, rfl, hfacts⟩ := hl
  cases pc with
  | addPayload => exact hfacts.elim
  | addLink elem item =>
      cases hderef
      obtain ⟨⟨-, rfl, hlast, -, -⟩, hfirst⟩ := hfacts
      have hne : cells ≠ [] := fun hnil => hfirst ((hcells.first_eq hnull).mpr hnil)
      rw [hlast]
      exact hcells.live (lastAddress_mem hne)
  | clearElem tmp =>
      cases hderef
      obtain ⟨-, rfl, hne⟩ := hfacts
      exact head_live hcells fun hnil => hne ((hcells.first_eq hnull).mpr hnil)
  | clearFree tmp elem =>
      cases hderef
      obtain ⟨item, rfl, -⟩ := hfacts
      exact hfront.live List.mem_cons_self
  | nextFirst backbuffer elem =>
      cases hderef
      obtain ⟨⟨-, rfl, -, hsize, -⟩, hmore, rfl⟩ := hfacts
      refine head_live hcells ?_
      rintro rfl
      have hlt := UInt64.lt_iff_toNat_lt.mp hmore
      rw [hsize] at hlt
      exact Nat.not_lt_zero _ hlt
  | nextItem backbuffer elem =>
      cases hderef
      obtain ⟨item, rfl, -⟩ := hfacts
      exact hfront.live List.mem_cons_self
  | nextFree backbuffer elem item =>
      cases hderef
      obtain ⟨rfl, -⟩ := hfacts
      exact hfront.live List.mem_cons_self
  | _ => cases hderef

theorem Work.inside (hw : Work h q pc pc' h' q') : pc.Inside := by
  cases hw <;> trivial

theorem derefs_inside {p : Ptr} (h : pc.derefs q = some p) :
    pc.Inside ∨ ∃ item, pc = .addPayload p item := by
  cases pc with
  | addPayload elem item =>
      cases h
      exact Or.inr ⟨item, rfl⟩
  | idle | addCalloc | addLock | clearLock | nextLock => cases h
  | _ => exact Or.inl trivial

theorem Locks.node (hlocks : Locks pc pc') : pc'.node = none ∨ pc'.node = pc.node := by
  cases hlocks with
  | add => exact Or.inr rfl
  | clear | next => exact Or.inl rfl

end DroidCam.HeapQueue
