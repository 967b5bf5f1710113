import DroidCam.Lib.HeapChain
import Mathlib.Data.Option.Basic

/-
  DroidCam/HeapQueue.lean
  =======================
  `queue.c` statement by statement: nodes in a heap, `first`, `last` and `size`, and
  any number of threads that call the operations.

  `Queue` has each operation as one step on a list.  Here a thread takes the mutex,
  runs its statements one by one, and the others go on meanwhile up to their own
  `pthread_mutex_lock`; a call counts where it unlocks.  An access through a pointer
  that has no node is a fault.
-/

namespace DroidCam.HeapQueue

open HeapChain

/-! ### State -/

/-- A pointer, to a node or to an item. -/
abbrev Ptr := UInt64

def NULL : Ptr := 0

/-- `queue` without its mutex. -/
structure QueueVars where
  size : UInt64
  last : Ptr
  first : Ptr
deriving DecidableEq, Repr

/-- A call that has come to its `pthread_mutex_unlock`, and what it returns. -/
inductive Call where
  | init
  | add (item : Ptr)
  | clear
  | next (backbuffer : UInt64) (item : Ptr)
deriving Repr

/-- The statement that a thread is at, with its locals. -/
inductive Pc where
  | idle
  | addCalloc (item : Ptr)
  | addPayload (elem item : Ptr)
  | addLock (elem item : Ptr)
  | addTest (elem item : Ptr)
  | addFirst (elem item : Ptr)
  | addLink (elem item : Ptr)
  | addLast (elem item : Ptr)
  | addSize (item : Ptr)
  | clearLock
  | clearFirst
  | clearWhile (elem : Ptr)
  | clearElem (tmp : Ptr)
  | clearFree (tmp elem : Ptr)
  | resetSize
  | resetLast
  | resetFirst
  | nextLock (backbuffer : UInt64)
  | nextTest (backbuffer : UInt64)
  | nextElem (backbuffer : UInt64)
  | nextFirst (backbuffer : UInt64) (elem : Ptr)
  | nextItem (backbuffer : UInt64) (elem : Ptr)
  | nextFree (backbuffer : UInt64) (elem item : Ptr)
  | nextSize (backbuffer : UInt64) (item : Ptr)
  | nextEmpty (backbuffer : UInt64) (item : Ptr)
  | nextLast (backbuffer : UInt64) (item : Ptr)
  | unlock (call : Call)
deriving Repr

/-- The process with one queue; the threads are `ι`. -/
structure Machine (ι : Type*) where
  heap : Heap Ptr Ptr
  q : QueueVars
  mutex : Option ι
  thread : ι → Pc
  fault : Bool
  exited : Bool
  -- history: the calls in the order in which they unlocked
  history : List Call

variable {ι : Type*} [DecidableEq ι]

/-- `queue_init`. -/
def queueInit : QueueVars := ⟨0, NULL, NULL⟩

/-- The process behind its `queue_init`. -/
def Machine.init : Machine ι := ⟨fun _ => none, queueInit, none, fun _ => .idle, false, false, []⟩

def Machine.goto (s : Machine ι) (i : ι) (pc : Pc) : Machine ι :=
  { s with thread := Function.update s.thread i pc }

def Machine.store (s : Machine ι) (p : Ptr) (cell : Option (Node Ptr Ptr)) : Machine ι :=
  { s with heap := Function.update s.heap p cell }

/-- Access to the node at `p`. -/
def Machine.deref (s : Machine ι) (p : Ptr) (k : Node Ptr Ptr → Machine ι) : Machine ι :=
  match s.heap p with
  | some node => k node
  | none => { s with fault := true }

/-! ### Steps

A thread stops between any two statements, so each access through a pointer and each
write of a member is a step of its own. -/

inductive Act where
  | init
  | add (item : Ptr)
  | clear
  | next (backbuffer : UInt64)
  /-- What `calloc` returns. -/
  | calloc (p : Ptr)
  /-- Whether the mutex operation succeeds. -/
  | mutex (ok : Bool)
  | go
deriving Repr

/-- `pthread_mutex_lock`: it waits, succeeds, or ends the process. -/
def Machine.lock (s : Machine ι) (i : ι) (ok : Bool) (pc : Pc) : Option (Machine ι) :=
  if ok then
    if s.mutex = none then some { s.goto i pc with mutex := some i } else none
  else some { s with exited := true }

def Machine.unlock (s : Machine ι) (i : ι) (ok : Bool) (call : Call) : Machine ι :=
  if ok then { s.goto i .idle with mutex := none, history := s.history ++ [call] }
  else { s with exited := true }

/-- Calls and returns. -/
def callStep (s : Machine ι) (i : ι) (a : Act) : Option (Machine ι) :=
  match s.thread i, a with
  -- `queue_init` makes the mutex anew, so nobody may hold it
  | .idle, .init =>
      if s.mutex = none then some { s with q := queueInit, history := s.history ++ [.init] }
      else none
  | .idle, .add item => some (s.goto i (.addCalloc item))
  | .idle, .clear => some (s.goto i .clearLock)
  | .idle, .next backbuffer => some (s.goto i (.nextLock backbuffer))
  | .unlock call, .mutex ok => some (s.unlock i ok call)
  | _, _ => none

/-- `queue_add`. -/
def addStep (s : Machine ι) (i : ι) (a : Act) : Option (Machine ι) :=
  match s.thread i, a with
  | .addCalloc item, .calloc elem =>
      -- the process is left when there is no memory
      if elem = NULL then some { s with exited := true }
      -- calloc gives memory that nobody has
      else if s.heap elem = none then
        some ((s.store elem (some ⟨NULL, NULL⟩)).goto i (.addPayload elem item))
      else none
  | .addPayload elem item, .go =>
      some (s.deref elem fun node =>
        (s.store elem (some { node with payload := item })).goto i (.addLock elem item))
  | .addLock elem item, .mutex ok => s.lock i ok (.addTest elem item)
  | .addTest elem item, .go =>
      some (s.goto i (if s.q.first = NULL then .addFirst elem item else .addLink elem item))
  | .addFirst elem item, .go =>
      some ({ s with q := { s.q with first := elem } }.goto i (.addLast elem item))
  | .addLink elem item, .go =>
      some (s.deref s.q.last fun node =>
        -- q->last, which is not tested: it has a node when the queue is not empty
        (s.store s.q.last (some { node with next := elem })).goto i (.addLast elem item))
  | .addLast elem item, .go =>
      some ({ s with q := { s.q with last := elem } }.goto i (.addSize item))
  | .addSize item, .go =>
      some ({ s with q := { s.q with size := s.q.size + 1 } }.goto i (.unlock (.add item)))
  | _, _ => none

/-- `queue_clear`. -/
def clearStep (s : Machine ι) (i : ι) (a : Act) : Option (Machine ι) :=
  match s.thread i, a with
  | .clearLock, .mutex ok => s.lock i ok .clearFirst
  | .clearFirst, .go => some (s.goto i (.clearWhile s.q.first))
  | .clearWhile elem, .go =>
      some (s.goto i (if elem ≠ NULL then .clearElem elem else .resetSize))
  | .clearElem tmp, .go => some (s.deref tmp fun node => s.goto i (.clearFree tmp node.next))
  | .clearFree tmp elem, .go =>
      some (s.deref tmp fun _ => (s.store tmp none).goto i (.clearWhile elem))
  | .resetSize, .go => some ({ s with q := { s.q with size := 0 } }.goto i .resetLast)
  | .resetLast, .go => some ({ s with q := { s.q with last := NULL } }.goto i .resetFirst)
  | .resetFirst, .go =>
      some ({ s with q := { s.q with first := NULL } }.goto i (.unlock .clear))
  | _, _ => none

/-- `queue_next`. -/
def nextStep (s : Machine ι) (i : ι) (a : Act) : Option (Machine ι) :=
  match s.thread i, a with
  | .nextLock backbuffer, .mutex ok => s.lock i ok (.nextTest backbuffer)
  | .nextTest backbuffer, .go =>
      some (s.goto i (if s.q.size > backbuffer then .nextElem backbuffer
                      else .unlock (.next backbuffer NULL)))
  | .nextElem backbuffer, .go => some (s.goto i (.nextFirst backbuffer s.q.first))
  | .nextFirst backbuffer elem, .go =>
      some (s.deref elem fun node =>
        { s with q := { s.q with first := node.next } }.goto i (.nextItem backbuffer elem))
  | .nextItem backbuffer elem, .go =>
      -- the payload is read after first has moved on, and before the node is freed
      some (s.deref elem fun node => s.goto i (.nextFree backbuffer elem node.payload))
  | .nextFree backbuffer elem item, .go =>
      some (s.deref elem fun _ => (s.store elem none).goto i (.nextSize backbuffer item))
  | .nextSize backbuffer item, .go =>
      some ({ s with q := { s.q with size := s.q.size - 1 } }.goto i (.nextEmpty backbuffer item))
  | .nextEmpty backbuffer item, .go =>
      some (s.goto i (if s.q.first = NULL then .nextLast backbuffer item
                      else .unlock (.next backbuffer item)))
  | .nextLast backbuffer item, .go =>
      some ({ s with q := { s.q with last := NULL } }.goto i (.unlock (.next backbuffer item)))
  | _, _ => none

/-- One statement of thread `i`, in the function where it is. -/
def threadStep (s : Machine ι) (i : ι) (a : Act) : Option (Machine ι) :=
  callStep s i a <|> addStep s i a <|> clearStep s i a <|> nextStep s i a

/-- A step of the process: some thread's, while it runs. -/
def queueStep (s : Machine ι) (a : ι × Act) : Option (Machine ι) :=
  if s.fault ∨ s.exited then none else threadStep s a.1 a.2

/-! ### What one step does

Below the four functions are one table: what a thread does under the mutex, with the
test that leads there. All proofs about steps go by this table. -/

/-- The node that a thread has made and not linked yet, with its payload. -/
def Pc.node : Pc → Option (Ptr × Ptr)
  | .addPayload elem _ => some (elem, NULL)
  | .addLock elem item | .addTest elem item | .addFirst elem item | .addLink elem item =>
      some (elem, item)
  | _ => none

/-- The thread is between its lock and its unlock. -/
def Pc.Inside : Pc → Prop
  | .idle | .addCalloc _ | .addPayload _ _ | .addLock _ _ | .clearLock | .nextLock _ => False
  | _ => True

/-- The pointer that the next statement goes through. -/
def Pc.derefs (q : QueueVars) : Pc → Option Ptr
  | .addPayload elem _ => some elem
  | .addLink _ _ => some q.last
  | .clearElem tmp | .clearFree tmp _ => some tmp
  | .nextFirst _ elem | .nextItem _ elem | .nextFree _ elem _ => some elem
  | _ => none

/-- Where a lock leads. -/
inductive Locks : Pc → Pc → Prop where
  | add (elem item : Ptr) : Locks (.addLock elem item) (.addTest elem item)
  | clear : Locks .clearLock .clearFirst
  | next (backbuffer : UInt64) : Locks (.nextLock backbuffer) (.nextTest backbuffer)

/-- A statement under the mutex. -/
inductive Work (h : Heap Ptr Ptr) (q : QueueVars) :
    Pc → Pc → Heap Ptr Ptr → QueueVars → Prop where
  | addTest {elem item : Ptr} (hfirst : q.first = NULL) :
      Work h q (.addTest elem item) (.addFirst elem item) h q
  | addTestNot {elem item : Ptr} (hfirst : q.first ≠ NULL) :
      Work h q (.addTest elem item) (.addLink elem item) h q
  | addFirst {elem item : Ptr} :
      Work h q (.addFirst elem item) (.addLast elem item) h { q with first := elem }
  | addLink {elem item : Ptr} {node : Node Ptr Ptr} (hcell : h q.last = some node) :
      Work h q (.addLink elem item) (.addLast elem item)
        (Function.update h q.last (some { node with next := elem })) q
  | addLast {elem item : Ptr} :
      Work h q (.addLast elem item) (.addSize item) h { q with last := elem }
  | addSize {item : Ptr} :
      Work h q (.addSize item) (.unlock (.add item)) h { q with size := q.size + 1 }
  | clearFirst : Work h q .clearFirst (.clearWhile q.first) h q
  | clearWhile {elem : Ptr} (helem : elem ≠ NULL) :
      Work h q (.clearWhile elem) (.clearElem elem) h q
  | clearDone : Work h q (.clearWhile NULL) .resetSize h q
  | clearElem {tmp : Ptr} {node : Node Ptr Ptr} (hcell : h tmp = some node) :
      Work h q (.clearElem tmp) (.clearFree tmp node.next) h q
  | clearFree {tmp elem : Ptr} :
      Work h q (.clearFree tmp elem) (.clearWhile elem) (Function.update h tmp none) q
  | resetSize : Work h q .resetSize .resetLast h { q with size := 0 }
  | resetLast : Work h q .resetLast .resetFirst h { q with last := NULL }
  | resetFirst : Work h q .resetFirst (.unlock .clear) h { q with first := NULL }
  | nextTest {backbuffer : UInt64} (hsize : backbuffer < q.size) :
      Work h q (.nextTest backbuffer) (.nextElem backbuffer) h q
  | nextTestNot {backbuffer : UInt64} (hsize : ¬ backbuffer < q.size) :
      Work h q (.nextTest backbuffer) (.unlock (.next backbuffer NULL)) h q
  | nextElem {backbuffer : UInt64} :
      Work h q (.nextElem backbuffer) (.nextFirst backbuffer q.first) h q
  | nextFirst {backbuffer : UInt64} {elem : Ptr} {node : Node Ptr Ptr}
      (hcell : h elem = some node) :
      Work h q (.nextFirst backbuffer elem) (.nextItem backbuffer elem) h
        { q with first := node.next }
  | nextItem {backbuffer : UInt64} {elem : Ptr} {node : Node Ptr Ptr}
      (hcell : h elem = some node) :
      Work h q (.nextItem backbuffer elem) (.nextFree backbuffer elem node.payload) h q
  | nextFree {backbuffer : UInt64} {elem item : Ptr} :
      Work h q (.nextFree backbuffer elem item) (.nextSize backbuffer item)
        (Function.update h elem none) q
  | nextSize {backbuffer : UInt64} {item : Ptr} :
      Work h q (.nextSize backbuffer item) (.nextEmpty backbuffer item) h
        { q with size := q.size - 1 }
  | nextEmpty {backbuffer : UInt64} {item : Ptr} (hfirst : q.first = NULL) :
      Work h q (.nextEmpty backbuffer item) (.nextLast backbuffer item) h q
  | nextEmptyNot {backbuffer : UInt64} {item : Ptr} (hfirst : q.first ≠ NULL) :
      Work h q (.nextEmpty backbuffer item) (.unlock (.next backbuffer item)) h q
  | nextLast {backbuffer : UInt64} {item : Ptr} :
      Work h q (.nextLast backbuffer item) (.unlock (.next backbuffer item)) h
        { q with last := NULL }

inductive ThreadMove (s : Machine ι) (i : ι) : Machine ι → Prop where
  | fault {p : Ptr} (hderef : (s.thread i).derefs s.q = some p) (hcell : s.heap p = none) :
      ThreadMove s i { s with fault := true }
  | exit : ThreadMove s i { s with exited := true }
  | call {pc : Pc} (hpc : s.thread i = .idle) (hnode : pc.node = none) (hnext : ¬ pc.Inside) :
      ThreadMove s i (s.goto i pc)
  | init (hpc : s.thread i = .idle) (hfree : s.mutex = none) :
      ThreadMove s i { s with q := queueInit, history := s.history ++ [.init] }
  | calloc {item elem : Ptr} (hpc : s.thread i = .addCalloc item) (helem : elem ≠ NULL)
      (hcell : s.heap elem = none) :
      ThreadMove s i ((s.store elem (some ⟨NULL, NULL⟩)).goto i (.addPayload elem item))
  | payload {elem item : Ptr} {node : Node Ptr Ptr} (hpc : s.thread i = .addPayload elem item)
      (hcell : s.heap elem = some node) :
      ThreadMove s i
        ((s.store elem (some { node with payload := item })).goto i (.addLock elem item))
  | lock {pc : Pc} (hlocks : Locks (s.thread i) pc) (hfree : s.mutex = none) :
      ThreadMove s i { s.goto i pc with mutex := some i }
  | work {pc : Pc} {h : Heap Ptr Ptr} {q : QueueVars}
      (hwork : Work s.heap s.q (s.thread i) pc h q) :
      ThreadMove s i { s.goto i pc with heap := h, q }
  | unlock {call : Call} (hpc : s.thread i = .unlock call) :
      ThreadMove s i { s.goto i .idle with mutex := none, history := s.history ++ [call] }

theorem lock_move {s t : Machine ι} {i : ι} {ok : Bool} {pc : Pc}
    (hlocks : Locks (s.thread i) pc) (h : s.lock i ok pc = some t) : ThreadMove s i t := by
  rw [Machine.lock] at h
  split at h
  · split at h
    · rename_i hfree
      cases h
      exact .lock hlocks hfree
    · cases h
  · cases h
    exact .exit

theorem deref_move {s : Machine ι} {i : ι} {p : Ptr} {k : Node Ptr Ptr → Machine ι}
    (hderef : (s.thread i).derefs s.q = some p)
    (hk : ∀ node, s.heap p = some node → ThreadMove s i (k node)) :
    ThreadMove s i (s.deref p k) := by
  rw [Machine.deref]
  split
  · rename_i node hcell
    exact hk node hcell
  · rename_i hcell
    exact .fault hderef hcell

theorem callStep_move {s t : Machine ι} {i : ι} {a : Act} (h : callStep s i a = some t) :
    ThreadMove s i t := by
  unfold callStep at h
  split at h
  case h_1 hpc =>
    split at h
    · rename_i hfree
      cases h
      exact .init hpc hfree
    · cases h
  case h_2 item hpc =>
    cases h
    exact .call hpc rfl id
  case h_3 hpc =>
    cases h
    exact .call hpc rfl id
  case h_4 backbuffer hpc =>
    cases h
    exact .call hpc rfl id
  case h_5 call ok hpc =>
    cases h
    cases ok
    · exact .exit
    · exact .unlock hpc
  case h_6 => cases h

theorem addStep_move {s t : Machine ι} {i : ι} {a : Act} (h : addStep s i a = some t) :
    ThreadMove s i t := by
  unfold addStep at h
  split at h
  case h_1 item elem hpc =>
    split_ifs at h with helem hcell
    · cases h
      exact .exit
    · cases h
      exact .calloc hpc helem hcell
  case h_2 elem item hpc =>
    cases h
    refine deref_move (by rw [hpc, Pc.derefs]) fun node hcell => ?_
    exact .payload hpc hcell
  case h_3 elem item ok hpc => exact lock_move (hpc ▸ .add elem item) h
  case h_4 elem item hpc =>
    cases h
    split
    · rename_i hfirst
      exact .work (hpc ▸ .addTest hfirst)
    · rename_i hfirst
      exact .work (hpc ▸ .addTestNot hfirst)
  case h_5 elem item hpc =>
    cases h
    exact .work (hpc ▸ .addFirst)
  case h_6 elem item hpc =>
    cases h
    refine deref_move (by rw [hpc, Pc.derefs]) fun node hcell => ?_
    exact .work (hpc ▸ .addLink hcell)
  case h_7 elem item hpc =>
    cases h
    exact .work (hpc ▸ .addLast)
  case h_8 item hpc =>
    cases h
    exact .work (hpc ▸ .addSize)
  case h_9 => cases h

theorem clearStep_move {s t : Machine ι} {i : ι} {a : Act} (h : clearStep s i a = some t) :
    ThreadMove s i t := by
  unfold clearStep at h
  split at h
  case h_1 ok hpc => exact lock_move (hpc ▸ .clear) h
  case h_2 hpc =>
    cases h
    exact .work (hpc ▸ .clearFirst)
  case h_3 elem hpc =>
    cases h
    by_cases helem : elem = NULL
    · subst helem
      rw [if_neg (not_not_intro rfl)]
      exact .work (hpc ▸ .clearDone)
    · rw [if_pos helem]
      exact .work (hpc ▸ .clearWhile helem)
  case h_4 tmp hpc =>
    cases h
    refine deref_move (by rw [hpc, Pc.derefs]) fun node hcell => ?_
    exact .work (hpc ▸ .clearElem hcell)
  case h_5 tmp elem hpc =>
    cases h
    refine deref_move (by rw [hpc, Pc.derefs]) fun node hcell => ?_
    exact .work (hpc ▸ .clearFree)
  case h_6 hpc =>
    cases h
    exact .work (hpc ▸ .resetSize)
  case h_7 hpc =>
    cases h
    exact .work (hpc ▸ .resetLast)
  case h_8 hpc =>
    cases h
    exact .work (hpc ▸ .resetFirst)
  case h_9 => cases h

theorem nextStep_move {s t : Machine ι} {i : ι} {a : Act} (h : nextStep s i a = some t) :
    ThreadMove s i t := by
  unfold nextStep at h
  split at h
  case h_1 backbuffer ok hpc => exact lock_move (hpc ▸ .next backbuffer) h
  case h_2 backbuffer hpc =>
    cases h
    split
    · rename_i hsize
      exact .work (hpc ▸ .nextTest hsize)
    · rename_i hsize
      exact .work (hpc ▸ .nextTestNot hsize)
  case h_3 backbuffer hpc =>
    cases h
    exact .work (hpc ▸ .nextElem)
  case h_4 backbuffer elem hpc =>
    cases h
    refine deref_move (by rw [hpc, Pc.derefs]) fun node hcell => ?_
    exact .work (hpc ▸ .nextFirst hcell)
  case h_5 backbuffer elem hpc =>
    cases h
    refine deref_move (by rw [hpc, Pc.derefs]) fun node hcell => ?_
    exact .work (hpc ▸ .nextItem hcell)
  case h_6 backbuffer elem item hpc =>
    cases h
    refine deref_move (by rw [hpc, Pc.derefs]) fun node hcell => ?_
    exact .work (hpc ▸ .nextFree)
  case h_7 backbuffer item hpc =>
    cases h
    exact .work (hpc ▸ .nextSize)
  case h_8 backbuffer item hpc =>
    cases h
    split
    · rename_i hfirst
      exact .work (hpc ▸ .nextEmpty hfirst)
    · rename_i hfirst
      exact .work (hpc ▸ .nextEmptyNot hfirst)
  case h_9 backbuffer item hpc =>
    cases h
    exact .work (hpc ▸ .nextLast)
  case h_10 => cases h

theorem threadStep_move {s t : Machine ι} {i : ι} {a : Act} (h : threadStep s i a = some t) :
    ThreadMove s i t := by
  rcases (Option.orElse_eq_some _ _ _).mp h with hcall | ⟨-, h⟩
  · exact callStep_move hcall
  rcases (Option.orElse_eq_some _ _ _).mp h with hadd | ⟨-, h⟩
  · exact addStep_move hadd
  rcases (Option.orElse_eq_some _ _ _).mp h with hclear | ⟨-, hnext⟩
  · exact clearStep_move hclear
  · exact nextStep_move hnext

end DroidCam.HeapQueue
