import DroidCam.HeapQueueLayout
import DroidCam.Lib.LabelledRun

/-
  DroidCam/HeapQueueRuns.lean
  ===========================
  The queue over whole runs: any number of threads, any interleaving of their
  statements.

  The nodes of the process are those of the queue and those that a thread has made
  and not linked yet, all different.  The queue is at rest, or as its holder's next
  statement wants it.  A call takes place where it unlocks, and there the nodes go
  from one list to the next as `ListStep` says.
-/

namespace DroidCam.HeapQueue

open HeapChain LabelledRun

variable {ι : Type*}
variable {h h' : Heap Ptr Ptr} {q : QueueVars} {xs foot foot' : List Ptr} {pc pc' : Pc}

/-! ### The process -/

/-- The queue while nobody holds the mutex. -/
def Rests (h : Heap Ptr Ptr) (q : QueueVars) (xs foot : List Ptr) : Prop :=
  ∃ cells, Represents h q cells ∧ payloads cells = xs ∧ foot = addresses cells

theorem Rests.frame (hr : Rests h q xs foot) (hsame : ∀ a ∈ foot, h' a = h a) :
    Rests h' q xs foot := by
  obtain ⟨cells, ⟨hchain, hlast, hsize⟩, hitems, rfl⟩ := hr
  exact ⟨cells, ⟨hchain.frame hsame, hlast, hsize⟩, hitems, rfl⟩

theorem Rests.live (hr : Rests h q xs foot) {a : Ptr} (ha : a ∈ foot) :
    ∃ node, h a = some node := by
  obtain ⟨cells, hrep, -, rfl⟩ := hr
  exact hrep.chain.live ha

/-- A lock finds the queue at rest. -/
theorem Rests.lock (hr : Rests h q xs foot) (hlocks : Locks pc pc') : Layout h q xs foot pc' := by
  obtain ⟨cells, hrep, hitems, hfoot⟩ := hr
  have hstands : Stands q xs [] q.first cells := ⟨rfl, rfl, hrep.last, hrep.size, hitems⟩
  cases hlocks with
  | add | clear | next => exact ⟨q.first, [], q.first, cells, rfl, hrep.chain, hfoot, hstands⟩

/-- An unlock leaves the queue at rest, one call further. -/
theorem Layout.unlock {call : Call} (hl : Layout h q xs foot (.unlock call)) :
    ∃ ys, ListStep xs call ys ∧ Rests h q ys foot := by
  obtain ⟨p, front, m, cells, -, hcells, rfl, ys, hstep, rfl, rfl, hlast, hsize, hitems⟩ := hl
  exact ⟨ys, hstep, cells, ⟨hcells, hlast, hsize⟩, hitems, rfl⟩

/-- No node is in the hands of two threads. -/
def Apart (thread : ι → Pc) : Prop :=
  ∀ i j elem x y, (thread i).node = some (elem, x) → (thread j).node = some (elem, y) → i = j

/-- The nodes of the queue are those at `foot`, whoever holds the mutex. -/
def Machine.Holds (s : Machine ι) (xs foot : List Ptr) : Prop :=
  match s.mutex with
  | none => Rests s.heap s.q xs foot
  | some i => Layout s.heap s.q xs foot (s.thread i)

structure Inv (s : Machine ι) (xs : List Ptr) : Prop where
  null : s.heap NULL = none
  sound : s.fault = false
  inside : ∀ i, (s.thread i).Inside → s.mutex = some i
  apart : Apart s.thread
  queue : ∃ foot, s.Holds xs foot ∧ ∀ i, Made s.heap foot (s.thread i)

theorem Inv.init : Inv (Machine.init : Machine ι) [] where
  null := rfl
  sound := rfl
  inside _ h := h.elim
  apart _ _ _ _ _ h := by cases h
  queue := by
    refine ⟨[], ⟨[], ⟨rfl, rfl, rfl⟩, rfl, rfl⟩, ?_⟩
    intro i elem item h
    cases h

variable {s t : Machine ι} {i : ι}

theorem Machine.holds_free (hfree : s.mutex = none) :
    s.Holds xs foot ↔ Rests s.heap s.q xs foot := by
  rw [Machine.Holds, hfree]

theorem Machine.holds_held (hheld : s.mutex = some i) :
    s.Holds xs foot ↔ Layout s.heap s.q xs foot (s.thread i) := by
  rw [Machine.Holds, hheld]

theorem Machine.Holds.live (hs : s.Holds xs foot) {a : Ptr} (ha : a ∈ foot) :
    ∃ node, s.heap a = some node := by
  cases hmutex : s.mutex with
  | none => exact ((Machine.holds_free hmutex).mp hs).live ha
  | some i => exact ((Machine.holds_held hmutex).mp hs).live ha

/-- The queue as another thread leaves it. -/
theorem Machine.Holds.frame (hs : s.Holds xs foot) (hmutex : t.mutex = s.mutex)
    (hq : t.q = s.q) (hthread : ∀ j, s.mutex = some j → t.thread j = s.thread j)
    (hsame : ∀ a ∈ foot, t.heap a = s.heap a) : t.Holds xs foot := by
  cases hfree : s.mutex with
  | none =>
      rw [Machine.holds_free (hmutex.trans hfree), hq]
      exact ((Machine.holds_free hfree).mp hs).frame hsame
  | some j =>
      rw [Machine.holds_held (hmutex.trans hfree), hq, hthread j hfree]
      exact ((Machine.holds_held hfree).mp hs).frame hsame

theorem Inv.holder_inside (hs : Inv s xs) (hheld : s.mutex = some i) : (s.thread i).Inside := by
  obtain ⟨foot, hholds, -⟩ := hs.queue
  exact ((Machine.holds_held hheld).mp hholds).inside

/-- No statement goes through a pointer without a node. -/
theorem Inv.no_fault {p : Ptr} (hs : Inv s xs) (hderef : (s.thread i).derefs s.q = some p) :
    s.heap p ≠ none := by
  obtain ⟨foot, hholds, hmade⟩ := hs.queue
  rcases derefs_inside hderef with hinside | ⟨item, hpc⟩
  · have hl := (Machine.holds_held (hs.inside i hinside)).mp hholds
    obtain ⟨node, hcell⟩ := hl.derefs hs.null hderef
    rw [hcell]
    exact Option.some_ne_none node
  · have hnode : (s.thread i).node = some (p, NULL) := by rw [hpc, Pc.node]
    rw [(hmade i p NULL hnode).1]
    exact Option.some_ne_none _

theorem Inv.queueInit (hs : Inv s xs) (hfree : s.mutex = none) :
    Inv { s with q := queueInit, history := s.history ++ [.init] } [] := by
  have hrests : Rests s.heap HeapQueue.queueInit [] [] := ⟨[], ⟨rfl, rfl, rfl⟩, rfl, rfl⟩
  refine ⟨hs.null, hs.sound, hs.inside, hs.apart, [], ?_, ?_⟩
  · rw [Machine.Holds, hfree]
    exact hrests
  · intro j elem item h
    obtain ⟨foot, -, hmade⟩ := hs.queue
    exact ⟨(hmade j elem item h).1, List.not_mem_nil⟩

/-! ### One thread moves on

The others hold no lock while one works under the mutex, so all that has to be kept for
them is the nodes that they have made and not linked yet. -/

variable [DecidableEq ι]

/-- One thread moves on; the others keep their nodes. -/
theorem made_update {thread : ι → Pc} (hi : Made h' foot' pc)
    (hothers : ∀ j, j ≠ i → Made h' foot' (thread j)) (j : ι) :
    Made h' foot' (Function.update thread i pc j) := by
  by_cases hj : j = i
  · subst hj
    rw [Function.update_self]
    exact hi
  · rw [Function.update_of_ne hj]
    exact hothers j hj

theorem Apart.update {thread : ι → Pc} (ha : Apart thread)
    (hnew : ∀ elem x, pc.node = some (elem, x) →
      ∀ j y, j ≠ i → (thread j).node ≠ some (elem, y)) :
    Apart (Function.update thread i pc) := by
  intro j k elem x y hj hk
  by_cases hji : j = i
  · by_cases hki : k = i
    · exact hji.trans hki.symm
    · rw [hji, Function.update_self] at hj
      rw [Function.update_of_ne hki] at hk
      exact absurd hk (hnew elem x hj k y hki)
  · by_cases hki : k = i
    · rw [hki, Function.update_self] at hk
      rw [Function.update_of_ne hji] at hj
      exact absurd hj (hnew elem y hk j x hji)
    · rw [Function.update_of_ne hji] at hj
      rw [Function.update_of_ne hki] at hk
      exact ha j k elem x y hj hk

/-- A thread that makes no node. -/
theorem Apart.same {thread : ι → Pc} (ha : Apart thread)
    (hnode : pc.node = none ∨ pc.node = (thread i).node) :
    Apart (Function.update thread i pc) := by
  refine ha.update fun elem x hpc j y hj hjy => ?_
  rcases hnode with hnone | hsame
  · rw [hnone] at hpc
    cases hpc
  · exact hj (ha j i elem y x hjy (hsame ▸ hpc))

/-- Only the holder is inside. -/
theorem inside_update {thread : ι → Pc} {mutex mutex' : Option ι}
    (hinside : ∀ j, (thread j).Inside → mutex = some j) (hpc : pc.Inside → mutex' = some i)
    (hothers : ∀ j, j ≠ i → mutex = some j → mutex' = some j) (j : ι)
    (hj : (Function.update thread i pc j).Inside) : mutex' = some j := by
  by_cases hji : j = i
  · subst hji
    rw [Function.update_self] at hj
    exact hpc hj
  · rw [Function.update_of_ne hji] at hj
    exact hothers j hji (hinside j hj)

/-- A thread begins a call. -/
theorem Inv.call (hs : Inv s xs) (hpc : s.thread i = .idle) (hnode : pc.node = none)
    (hnext : ¬ pc.Inside) : Inv (s.goto i pc) xs := by
  obtain ⟨foot, hholds, hmade⟩ := hs.queue
  have hidle : s.mutex ≠ some i := by
    intro hheld
    have hinside := hs.holder_inside hheld
    rw [hpc] at hinside
    exact hinside
  refine ⟨hs.null, hs.sound, ?_, hs.apart.same (Or.inl hnode), foot, ?_, ?_⟩
  · exact inside_update hs.inside (fun h => absurd h hnext) fun _ _ h => h
  · refine hholds.frame rfl rfl (fun j hj => ?_) fun _ _ => rfl
    have hne : j ≠ i := fun hji => hidle (hji ▸ hj)
    exact Function.update_of_ne hne _ _
  · refine made_update (fun elem item h => ?_) fun j _ => hmade j
    rw [hnode] at h
    cases h

/-- A thread that is outside gets or fills a node of its own at `elem`. -/
theorem Inv.own {elem item : Ptr} (hs : Inv s xs) (hout : ¬ (s.thread i).Inside)
    (hnext : ¬ pc.Inside) (hnode : pc.node = some (elem, item)) (helem : elem ≠ NULL)
    (hfoot : ∀ foot, s.Holds xs foot → (∀ j, Made s.heap foot (s.thread j)) → elem ∉ foot)
    (hothers : ∀ j y, j ≠ i → (s.thread j).node ≠ some (elem, y)) :
    Inv ((s.store elem (some ⟨item, NULL⟩)).goto i pc) xs := by
  obtain ⟨foot, hholds, hmade⟩ := hs.queue
  have hapart : elem ∉ foot := hfoot foot hholds hmade
  refine ⟨?_, hs.sound, ?_, ?_, foot, ?_, ?_⟩
  · exact (Function.update_of_ne helem.symm _ _).trans hs.null
  · exact inside_update hs.inside (fun h => absurd h hnext) fun _ _ h => h
  -- nobody else has made this node
  · refine hs.apart.update fun e x hpc j y hj => ?_
    rw [hnode] at hpc
    obtain ⟨rfl, -⟩ := Prod.mk.inj (Option.some.inj hpc)
    exact hothers j y hj
  · refine hholds.frame rfl rfl (fun j hj => ?_) fun a ha => ?_
    -- the thread that holds the mutex is another one
    · have hne : j ≠ i := fun hji => hout (hji ▸ hs.holder_inside hj)
      exact Function.update_of_ne hne _ _
    · exact Function.update_of_ne (ne_of_mem_of_not_mem ha hapart) _ _
  · refine made_update (fun e x hpc => ?_) fun j hj e x hjx => ?_
    · rw [hnode] at hpc
      obtain ⟨rfl, rfl⟩ := Prod.mk.inj (Option.some.inj hpc)
      exact ⟨Function.update_self _ _ _, hapart⟩
    · obtain ⟨hcell, hmem⟩ := hmade j e x hjx
      have hne : e ≠ elem := fun h => hothers j x hj (h ▸ hjx)
      exact ⟨(Function.update_of_ne hne _ _).trans hcell, hmem⟩

theorem Inv.lock (hs : Inv s xs) (hlocks : Locks (s.thread i) pc) (hfree : s.mutex = none) :
    Inv { s.goto i pc with mutex := some i } xs := by
  obtain ⟨foot, hholds, hmade⟩ := hs.queue
  refine ⟨hs.null, hs.sound, ?_, hs.apart.same hlocks.node, foot, ?_, ?_⟩
  · refine inside_update hs.inside (fun _ => rfl) fun j _ hj => ?_
    rw [hfree] at hj
    cases hj
  · have hl := ((Machine.holds_free hfree).mp hholds).lock hlocks
    show Layout s.heap s.q xs foot (Function.update s.thread i pc i)
    rw [Function.update_self]
    exact hl
  · refine made_update (fun elem item h => ?_) fun j _ => hmade j
    rcases hlocks.node with hnone | hsame
    · rw [hnone] at h
      cases h
    · exact hmade i elem item (hsame ▸ h)

theorem Inv.work (hs : Inv s xs) (hw : Work s.heap s.q (s.thread i) pc h q) :
    Inv { s.goto i pc with heap := h, q } xs := by
  obtain ⟨foot, hholds, hmade⟩ := hs.queue
  have hheld := hs.inside i hw.inside
  have hl := (Machine.holds_held hheld).mp hholds
  obtain ⟨foot', hl', hkept⟩ := hw.keeps hs.null (hmade i) hl
  refine ⟨hkept.null, hs.sound, ?_, hs.apart.same hw.node, foot', ?_, ?_⟩
  · exact inside_update hs.inside (fun _ => hheld) fun _ _ h => h
  · simp only [Machine.Holds, Machine.goto, hheld, Function.update_self]
    exact hl'
  · refine made_update hkept.made fun j hj elem item hnode => ?_
    obtain ⟨hcell, hmem⟩ := hmade j elem item hnode
    have hother : ∀ x, (s.thread i).node ≠ some (elem, x) :=
      fun x hx => hj (hs.apart j i elem item x hnode hx)
    obtain ⟨hsame, hout⟩ := hkept.others elem hmem hother
    exact ⟨hsame.trans hcell, hout⟩

theorem Inv.unlock {call : Call} (hs : Inv s xs) (hpc : s.thread i = .unlock call) :
    ∃ ys, ListStep xs call ys ∧
      Inv { s.goto i .idle with mutex := none, history := s.history ++ [call] } ys := by
  obtain ⟨foot, hholds, hmade⟩ := hs.queue
  have hheld : s.mutex = some i := hs.inside i (by rw [hpc]; trivial)
  have hl := (Machine.holds_held hheld).mp hholds
  rw [hpc] at hl
  obtain ⟨ys, hstep, hrests⟩ := hl.unlock
  refine ⟨ys, hstep, hs.null, hs.sound, ?_, hs.apart.same (Or.inl rfl), foot, hrests, ?_⟩
  · refine inside_update hs.inside (fun h => h.elim) fun j hj hmutex => ?_
    rw [hheld] at hmutex
    exact absurd (Option.some.inj hmutex).symm hj
  · exact made_update (fun _ _ h => by cases h) fun j _ => hmade j

/-- **A step of the process** is a call on the list, or none. -/
theorem Inv.step {a : ι × Act} (hs : Inv s xs) (h : queueStep s a = some t) :
    ∃ ys, (t.history = s.history ∧ ys = xs ∨
      ∃ call, t.history = s.history ++ [call] ∧ ListStep xs call ys) ∧ Inv t ys := by
  obtain ⟨i, act⟩ := a
  rw [queueStep] at h
  split at h
  · cases h
  · cases threadStep_move h with
    | fault hderef hcell => exact absurd hcell (hs.no_fault hderef)
    | exit => exact ⟨xs, Or.inl ⟨rfl, rfl⟩, hs.null, hs.sound, hs.inside, hs.apart, hs.queue⟩
    | call hpc hnode hnext => exact ⟨xs, Or.inl ⟨rfl, rfl⟩, hs.call hpc hnode hnext⟩
    | init hpc hfree => exact ⟨[], Or.inr ⟨.init, rfl, .init xs⟩, hs.queueInit hfree⟩
    | @calloc item elem hpc helem hcell =>
        refine ⟨xs, Or.inl ⟨rfl, rfl⟩, hs.own ?_ id rfl helem ?_ ?_⟩
        · rw [hpc]
          exact id
        -- a node of the queue is allocated, and this one was not
        · intro foot hholds _ hmem
          obtain ⟨node, hnode⟩ := hholds.live hmem
          rw [hcell] at hnode
          cases hnode
        -- the same for a node that another thread has made
        · intro j y _ hnode
          obtain ⟨foot, -, hmade⟩ := hs.queue
          have hlive := (hmade j elem y hnode).1
          rw [hcell] at hlive
          cases hlive
    | @payload elem item node hpc hcell =>
        have hnode : (s.thread i).node = some (elem, NULL) := by rw [hpc, Pc.node]
        obtain ⟨foot, hholds, hmade⟩ := hs.queue
        have hlive := (hmade i elem NULL hnode).1
        -- nobody has touched the node since calloc
        obtain rfl : node = ⟨NULL, NULL⟩ := Option.some.inj (hcell.symm.trans hlive)
        refine ⟨xs, Or.inl ⟨rfl, rfl⟩, hs.own ?_ id rfl ?_ ?_ ?_⟩
        · rw [hpc]
          exact id
        · rintro rfl
          rw [hs.null] at hcell
          cases hcell
        · exact fun foot' _ hmade' => (hmade' i elem NULL hnode).2
        · exact fun j y hj hjy => hj (hs.apart j i elem y NULL hjy hnode)
    | lock hlocks hfree => exact ⟨xs, Or.inl ⟨rfl, rfl⟩, hs.lock hlocks hfree⟩
    | work hwork => exact ⟨xs, Or.inl ⟨rfl, rfl⟩, hs.work hwork⟩
    | unlock hpc =>
        obtain ⟨ys, hstep, hinv⟩ := hs.unlock hpc
        exact ⟨ys, Or.inr ⟨_, rfl, hstep⟩, hinv⟩

theorem Inv.run {as : List (ι × Act)} (h : Run (ofNext queueStep) (Machine.init : Machine ι) as s) :
    ∃ xs, Run ListStep [] s.history xs ∧ Inv s xs := by
  refine @Run.invariant _ _ _ (fun s => ∃ xs, Run ListStep [] s.history xs ∧ Inv s xs) _ _ _
    ?_ ⟨[], Run.nil _, Inv.init⟩ h
  rintro s a t ⟨xs, hrun, hs⟩ hstep
  obtain ⟨ys, hcall, hinv⟩ := hs.step hstep
  refine ⟨ys, ?_, hinv⟩
  rcases hcall with ⟨hsame, rfl⟩ | ⟨call, hmore, hlist⟩
  · rw [hsame]
    exact hrun
  · rw [hmore]
    exact Run.snoc hrun hlist

end DroidCam.HeapQueue
