import Mathlib.Data.List.Basic

/-
  DroidCam/Lib/ByteMemory.lean
  ============================
  **A flat memory of bytes with span reads and span writes.**

  Addresses are integers relative to the start of an allocation, so an access
  before or past the allocation is an access like any other and can be talked
  about.  `write` is `memcpy` of a list of bytes to an address, `read` is the
  list of the bytes from an address on.
-/

namespace ByteMemory

/-- The bytes of an address space. -/
abbrev Memory (β : Type*) := Int → β

variable {β : Type*}

/-- Read `n` cells from `off` on. -/
def read (m : Memory β) (off : Int) (n : Nat) : List β :=
  (List.range n).map fun k : Nat => m (off + k)

/-- Write the cells `bs` from `off` on. -/
def write (m : Memory β) (off : Int) (bs : List β) : Memory β := fun x =>
  if off ≤ x then bs.getD (x - off).toNat (m x) else m x

@[simp] theorem length_read (m : Memory β) (off : Int) (n : Nat) : (read m off n).length = n := by
  simp [read]

@[simp] theorem getElem_read (m : Memory β) (off : Int) (n k : Nat)
    (hk : k < (read m off n).length) : (read m off n)[k] = m (off + k) := by
  simp [read]

@[simp] theorem write_nil (m : Memory β) (off : Int) : write m off [] = m := by
  funext x; simp [write]

/-- A write changes nothing outside its span. -/
theorem write_outside {m : Memory β} {off x : Int} {bs : List β}
    (h : x < off ∨ off + bs.length ≤ x) : write m off bs x = m x := by
  unfold write
  split
  · rename_i hle
    have hlen : bs.length ≤ (x - off).toNat := by omega
    simp [List.getD, List.getElem?_eq_none hlen]
  · rfl

theorem write_inside {m : Memory β} {off : Int} {bs : List β} {k : Nat} (hk : k < bs.length) :
    write m off bs (off + k) = bs[k] := by
  unfold write
  rw [if_pos (by omega), show (off + k - off).toNat = k by omega]
  simp [List.getD, List.getElem?_eq_getElem hk]

theorem write_zero_inside {m : Memory β} {bs : List β} {k : Nat} (hk : k < bs.length) :
    write m 0 bs k = bs[k] := by
  have hin : write m 0 bs (0 + k) = bs[k] := write_inside hk
  rwa [Int.zero_add] at hin

/-- Reads see equal bytes where two memories agree. -/
theorem read_congr {m m' : Memory β} {off : Int} {n : Nat}
    (h : ∀ x, off ≤ x → x < off + n → m x = m' x) : read m off n = read m' off n := by
  apply List.map_congr_left
  intro k hk
  exact h _ (by omega) (by have := List.mem_range.mp hk; omega)

/-- Reading a written span gives back what was written. -/
theorem read_write_self (m : Memory β) (off : Int) (bs : List β) :
    read (write m off bs) off bs.length = bs := by
  apply List.ext_getElem (by simp)
  intro k hk hk'
  rw [getElem_read, write_inside hk']

/-- A write elsewhere does not change a span. -/
theorem read_write_disjoint {m : Memory β} {off off' : Int} {n : Nat} {bs : List β}
    (h : off + n ≤ off' ∨ off' + bs.length ≤ off) :
    read (write m off' bs) off n = read m off n :=
  read_congr fun _ hlo hhi => write_outside (by omega)

/-- A shorter read is a prefix of a longer one. -/
theorem take_read (m : Memory β) (off : Int) {k n : Nat} (h : k ≤ n) :
    (read m off n).take k = read m off k := by
  rw [read, ← List.map_take, List.take_range, Nat.min_eq_left h, read]

/-- The front of a read, whichever of the two is shorter. -/
theorem read_min (m : Memory β) (off : Int) (k n : Nat) :
    read m off (min k n) = (read m off n).take k := by
  rw [← take_read m off (Nat.min_le_right k n)]
  have hmin : (read m off n).take k = (read m off n).take (min k (read m off n).length) :=
    List.take_eq_take_min
  rw [hmin, length_read]

/-- A read is a read of its front and one of the rest. -/
theorem read_add (m : Memory β) (off : Int) (a b : Nat) :
    read m off (a + b) = read m off a ++ read m (off + a) b := by
  apply List.ext_getElem (by simp)
  intro k hk hk'
  simp only [length_read] at hk
  by_cases hka : k < a
  · rw [List.getElem_append_left (by simpa using hka)]
    simp [read]
  · rw [List.getElem_append_right (by simpa using Nat.not_lt.mp hka)]
    simp only [read, List.getElem_map, List.getElem_range, List.length_map, List.length_range]
    congr 1
    omega

/-- Behind its front a read is a read from further on. -/
theorem drop_read (m : Memory β) (off : Int) (k n : Nat) :
    (read m off (k + n)).drop k = read m (off + k) n := by
  rw [read_add, List.drop_left' (length_read m off k)]

/-- A span of what was written at 0. -/
theorem read_write_inside {m : Memory β} {bs : List β} {k n : Nat} (h : k + n ≤ bs.length) :
    read (write m 0 bs) k n = (bs.drop k).take n := by
  have hrest : k + (bs.length - k) = bs.length := by omega
  have hwhole := read_write_self m 0 bs
  rw [← hrest] at hwhole
  have hdrop := drop_read (write m 0 bs) 0 k (bs.length - k)
  rw [hwhole, Int.zero_add] at hdrop
  rw [hdrop, take_read _ _ (by omega)]

end ByteMemory
