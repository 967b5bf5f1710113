import Mathlib.Data.List.Nodup
import Mathlib.Logic.Function.Basic

/-
  DroidCam/Lib/HeapChain.lean
  ===========================
  **Singly linked chains in a heap.**

  `Segment h p cells q`: from `p` the links lead through `cells`, which are addresses
  with their payloads, to `q`.  A segment depends on the heap at its own addresses
  only, so stores elsewhere, allocations and frees keep it.  A chain that ends at an
  address without a cell visits no cell twice.
-/

namespace HeapChain

variable {π α : Type*}

structure Node (π α : Type*) where
  payload : α
  next : π
deriving DecidableEq, Repr

/-- An address has a cell or is free. -/
abbrev Heap (π α : Type*) := π → Option (Node π α)

def Segment (h : Heap π α) : π → List (π × α) → π → Prop
  | p, [], q => p = q
  | p, (a, x) :: cells, q => p = a ∧ ∃ next, h a = some ⟨x, next⟩ ∧ Segment h next cells q

/-- The addresses of a segment. -/
def addresses (cells : List (π × α)) : List π := cells.map Prod.fst

def payloads (cells : List (π × α)) : List α := cells.map Prod.snd

@[simp] theorem addresses_nil : addresses ([] : List (π × α)) = [] := rfl

@[simp] theorem addresses_cons (c : π × α) (cells : List (π × α)) :
    addresses (c :: cells) = c.1 :: addresses cells := rfl

@[simp] theorem addresses_append (cells cells' : List (π × α)) :
    addresses (cells ++ cells') = addresses cells ++ addresses cells' := List.map_append

@[simp] theorem payloads_nil : payloads ([] : List (π × α)) = [] := rfl

@[simp] theorem payloads_cons (c : π × α) (cells : List (π × α)) :
    payloads (c :: cells) = c.2 :: payloads cells := rfl

@[simp] theorem payloads_append (cells cells' : List (π × α)) :
    payloads (cells ++ cells') = payloads cells ++ payloads cells' := List.map_append

@[simp] theorem length_addresses (cells : List (π × α)) :
    (addresses cells).length = cells.length := List.length_map _

@[simp] theorem length_payloads (cells : List (π × α)) :
    (payloads cells).length = cells.length := List.length_map _

/-! ### Following the links

The payloads are part of a segment, so that two segments from the same address are
compared cell by cell. -/

variable {h h' : Heap π α} {p q r a : π} {x : α} {cells cells' : List (π × α)}

theorem segment_append :
    Segment h p (cells ++ cells') r ↔ ∃ q, Segment h p cells q ∧ Segment h q cells' r := by
  induction cells generalizing p with
  | nil =>
      constructor
      · intro hseg
        exact ⟨p, rfl, hseg⟩
      · rintro ⟨q, rfl, hseg⟩
        exact hseg
  | cons c cells ih =>
      constructor
      · rintro ⟨rfl, next, hcell, hseg⟩
        obtain ⟨q, hfront, hback⟩ := ih.mp hseg
        exact ⟨q, ⟨rfl, next, hcell, hfront⟩, hback⟩
      · rintro ⟨q, ⟨rfl, next, hcell, hfront⟩, hback⟩
        exact ⟨rfl, next, hcell, ih.mpr ⟨q, hfront, hback⟩⟩

/-- Every address of a segment has a cell. -/
theorem Segment.live (hseg : Segment h p cells q) (ha : a ∈ addresses cells) :
    ∃ node, h a = some node := by
  induction cells generalizing p with
  | nil => exact absurd ha List.not_mem_nil
  | cons c cells ih =>
      obtain ⟨rfl, next, hcell, hrest⟩ := hseg
      rcases List.mem_cons.mp ha with rfl | htail
      · exact ⟨_, hcell⟩
      · exact ih hrest htail

/-- Only the heap at its addresses matters to a segment. -/
theorem Segment.frame (hseg : Segment h p cells q)
    (hsame : ∀ a ∈ addresses cells, h' a = h a) : Segment h' p cells q := by
  induction cells generalizing p with
  | nil => exact hseg
  | cons c cells ih =>
      obtain ⟨rfl, next, hcell, hrest⟩ := hseg
      refine ⟨rfl, next, ?_, ih hrest ?_⟩
      · exact (hsame c.1 List.mem_cons_self).trans hcell
      · exact fun a ha => hsame a (List.mem_cons_of_mem _ ha)

/-- The links determine the cells up to an end that has none. -/
theorem Segment.unique (hend : h q = none) (hseg : Segment h p cells q)
    (hseg' : Segment h p cells' q) : cells = cells' := by
  induction cells generalizing p cells' with
  | nil =>
      cases cells' with
      | nil => rfl
      -- one chain ends at q, where there is no cell, and the other goes on from there
      | cons c cells' =>
          obtain rfl : p = q := hseg
          obtain ⟨rfl, next, hcell, -⟩ := hseg'
          exact absurd (hend.symm.trans hcell) (by simp)
  | cons c cells ih =>
      obtain ⟨rfl, next, hcell, hrest⟩ := hseg
      cases cells' with
      | nil =>
          obtain rfl : c.1 = q := hseg'
          exact absurd (hend.symm.trans hcell) (by simp)
      | cons c' cells' =>
          obtain ⟨haddr, next', hcell', hrest'⟩ := hseg'
          rw [← haddr, hcell] at hcell'
          obtain ⟨hpayload, rfl⟩ := Node.mk.inj (Option.some.inj hcell')
          rw [ih hrest hrest', Prod.ext haddr hpayload]

/-- **A chain that ends is acyclic.** -/
theorem Segment.nodup (hend : h q = none) (hseg : Segment h p cells q) :
    (addresses cells).Nodup := by
  induction cells generalizing p with
  | nil => exact List.nodup_nil
  | cons c cells ih =>
      obtain ⟨rfl, next, hcell, hrest⟩ := hseg
      refine List.nodup_cons.mpr ⟨?_, ih hrest⟩
      -- a second visit would start the same chain again, and the chain is finite
      intro hagain
      obtain ⟨d, hd, haddr⟩ := List.mem_map.mp hagain
      obtain ⟨front, back, rfl⟩ := List.append_of_mem hd
      obtain ⟨m, -, hback⟩ := segment_append.mp hrest
      have hm : m = c.1 := hback.1.trans haddr
      have hwhole : Segment h m (c :: (front ++ d :: back)) q := ⟨hm, next, hcell, hrest⟩
      have hsame := congrArg List.length (hwhole.unique hend hback)
      simp only [List.length_cons, List.length_append] at hsame
      omega

/-- What the links lead to. -/
inductive Reaches (h : Heap π α) : π → π → Prop where
  | here (p : π) : Reaches h p p
  | next {p q : π} {node : Node π α} (hcell : h p = some node) (hrest : Reaches h node.next q) :
      Reaches h p q

theorem Segment.reaches (hend : h q = none) (hseg : Segment h p cells q)
    (hreach : Reaches h p a) : a ∈ addresses cells ∨ a = q := by
  induction hreach generalizing cells with
  | here p =>
      cases cells with
      | nil => exact Or.inr hseg
      | cons c cells => exact Or.inl (hseg.1 ▸ List.mem_cons_self)
  | @next p a node hcell hrest ih =>
      -- nothing is reached from q but q itself
      cases cells with
      | nil =>
          obtain rfl : p = q := hseg
          exact absurd (hend.symm.trans hcell) (by simp)
      | cons c cells =>
          obtain ⟨rfl, next, hcell', htail⟩ := hseg
          obtain rfl : node = ⟨c.2, next⟩ := Option.some.inj (hcell.symm.trans hcell')
          rcases ih htail with hmem | hlast
          · exact Or.inl (List.mem_cons_of_mem _ hmem)
          · exact Or.inr hlast

/-! ### The ends

A queue keeps pointers to both ends of its chain, and each operation has to know what
happens at one of them. -/

/-- The address of the last cell, or `null`. -/
def lastAddress (null : π) (cells : List (π × α)) : π :=
  (cells.getLast?.map Prod.fst).getD null

@[simp] theorem lastAddress_nil (null : π) : lastAddress null ([] : List (π × α)) = null := rfl

@[simp] theorem lastAddress_concat (null : π) (cells : List (π × α)) (c : π × α) :
    lastAddress null (cells ++ [c]) = c.1 := by
  simp [lastAddress]

@[simp] theorem lastAddress_cons_cons (null : π) (c d : π × α) (cells : List (π × α)) :
    lastAddress null (c :: d :: cells) = lastAddress null (d :: cells) := by
  simp [lastAddress]

theorem lastAddress_mem {null : π} (hne : cells ≠ []) :
    lastAddress null cells ∈ addresses cells := by
  obtain ⟨front, c, rfl⟩ := (List.eq_nil_or_concat cells).resolve_left hne
  rw [List.concat_eq_append, lastAddress_concat, addresses_append]
  exact List.mem_append_right _ List.mem_cons_self

/-- A segment starts at its first cell. -/
theorem Segment.first_eq (hend : h q = none) (hseg : Segment h p cells q) :
    p = q ↔ cells = [] := by
  cases cells with
  | nil => exact ⟨fun _ => rfl, fun _ => hseg⟩
  | cons c cells =>
      obtain ⟨rfl, next, hcell, -⟩ := hseg
      constructor
      · intro hp
        rw [hp, hend] at hcell
        cases hcell
      · intro hnil
        cases hnil

variable [DecidableEq π]

/-- A store to the side. -/
theorem Segment.update (hseg : Segment h p cells q) (ha : a ∉ addresses cells)
    (cell : Option (Node π α)) : Segment (Function.update h a cell) p cells q :=
  hseg.frame fun _ hb => Function.update_of_ne (ne_of_mem_of_not_mem hb ha) _ _

/-- **Linking behind the last cell.** -/
theorem Segment.link (hseg : Segment h p (cells ++ [(a, x)]) q)
    (ha : a ∉ addresses cells) (r : π) :
    Segment (Function.update h a (some ⟨x, r⟩)) p (cells ++ [(a, x)]) r := by
  obtain ⟨m, hfront, hlast⟩ := segment_append.mp hseg
  obtain ⟨rfl, -⟩ := hlast
  exact segment_append.mpr ⟨m, hfront.update ha _, rfl, r, Function.update_self _ _ _, rfl⟩

end HeapChain
