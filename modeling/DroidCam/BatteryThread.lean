import DroidCam.BatteryLabel
import DroidCam.Connection
import DroidCam.Lib.LabelledRun

/-
  DroidCam/BatteryThread.lean
  ===========================
  `BatteryThreadProc` as a whole: a connection of its own every half minute, over which
  it asks for the battery and shows the label of what comes back.

  `battery_value` and the number of the socket are kept from turn to turn.  A step takes
  one answer of the environment, and `Send` is one step for each `send`.
-/

namespace DroidCam.BatteryThread

open BatteryLabel Connection CString Descriptors LabelledRun

/-! ### State -/

inductive BatteryPc where
  /-- `while (v_running || a_running)`. -/
  | whileTest
  | active
  | getConnection
  | send
  | recvAll
  /-- `LOOP`. -/
  | loop
  | pause
  | ended
  /-- An access has left one of the arrays. -/
  | faulted
deriving DecidableEq, Repr

def BATTERY_REQ : List Char := "GET /battery HTTP/1.0\r\n\r\n".toList

/-- The turns of the pause, of a millisecond each. -/
def PAUSE : Nat := 30000

/-- What a connection waits for: the milliseconds slept since the one before, and
    whether both flags were found off in between. -/
structure Rest where
  slept : Nat
  stopped : Bool
deriving DecidableEq, Repr

def Rest.none : Rest := ⟨0, false⟩

structure BatteryState where
  pc : BatteryPc
  socket : Int
  batteryValue : CharArray VALUE_SIZE
  /-- From `ptr` of `Send` on. -/
  unsent : List Char
  /-- `j` of the pause. -/
  j : Nat
  table : Table
  -- history
  asked : List Char
  /-- The responses and the labels made of them, the last one first. -/
  shown : List (List Char × List Char)
  connections : Nat
  /-- Since the last connection. -/
  rest : Rest
  /-- Between each connection and the one before, the last one first. -/
  rests : List Rest

/-- `held` are the descriptors of the other threads. -/
def BatteryState.init (held : List Int) : BatteryState where
  pc := .whileTest
  socket := INVALID_SOCKET
  batteryValue := CharArray.zero VALUE_SIZE
  unsent := BATTERY_REQ
  j := 0
  table := ⟨held, 0⟩
  asked := []
  shown := []
  connections := 0
  rest := .none
  rests := []

inductive Answer where
  | go
  /-- `v_running || a_running`. -/
  | running (b : Bool)
  /-- `v_active != 0 || a_active != 0`. -/
  | active (b : Bool)
  | peer (p : Peer)
  /-- What `send` returns. -/
  | sent (w : Int)
  /-- What `RecvAll` has put into `buf`; nothing where it fails. -/
  | response (cs : List Char)

/-! ### The functions -/

variable (strerror : Errno → String)

def BatteryState.connected (s : BatteryState) (r : Int × Table) : BatteryState :=
  { s with
    pc := if r.1 = INVALID_SOCKET then .loop else .send
    socket := r.1
    table := r.2
    unsent := BATTERY_REQ
    asked := []
    connections := s.connections + 1
    rest := .none
    -- there is nothing before the first one
    rests := if s.connections = 0 then [] else s.rest :: s.rests }

/-- `bytes -= w; ptr += w`. -/
def BatteryState.sends (s : BatteryState) (w : Nat) : BatteryState :=
  { s with
    pc := if s.unsent.drop w = [] then .recvAll else .send
    unsent := s.unsent.drop w
    asked := s.asked ++ s.unsent.take w }

def BatteryState.receives (s : BatteryState) (response : List Char) : BatteryState :=
  match batteryTurn s.batteryValue response with
  | .error _ => { s with pc := .faulted }
  | .ok none => { s with pc := .loop }
  | .ok (some value) =>
      { s with
        pc := .loop
        batteryValue := value
        shown := (response, cstr value.chars) :: s.shown }

def batteryStep (s : BatteryState) (a : Answer) : Option BatteryState :=
  match s.pc, a with
  | .whileTest, .running b => some { s with pc := if b then .active else .ended }
  | .active, .active b => some { s with pc := if b then .getConnection else .whileTest }
  | .getConnection, .peer p =>
      if p.Fresh s.table then some (s.connected (getConnection strerror p s.table)) else none
  | .send, .sent w =>
      if w ≤ 0 then some { s with pc := .loop }
      else if w.toNat ≤ s.unsent.length then some (s.sends w.toNat)
      else none
  | .recvAll, .response cs => if cs.length ≤ BUF_SIZE then some (s.receives cs) else none
  | .loop, .go => some { s with pc := .pause, table := closeSocket s.table s.socket, j := 0 }
  | .pause, .go => if s.j < PAUSE then none else some { s with pc := .whileTest }
  | .pause, .running b =>
      if s.j < PAUSE then
        some (if b then { s with j := s.j + 1, rest := { s.rest with slept := s.rest.slept + 1 } }
              else { s with pc := .whileTest, rest := { s.rest with stopped := true } })
      else none
  | _, _ => none

abbrev Step : BatteryState → Answer → BatteryState → Prop := ofNext (batteryStep strerror)

/-! ### What one step does -/

/-- The stretches of the thread, by what it holds and what it has to wait for. -/
inductive Stage where
  | free
  | asking
  | waiting
  | leaving
  | pausing
  | faulted
deriving DecidableEq, Repr

def BatteryPc.stage : BatteryPc → Stage
  | .whileTest | .active | .getConnection | .ended => .free
  | .send => .asking
  | .recvAll => .waiting
  | .loop => .leaving
  | .pause => .pausing
  | .faulted => .faulted

inductive BatteryMove (s : BatteryState) : Answer → BatteryState → Prop where
  | goes {a : Answer} {pc : BatteryPc} (hpc : s.pc.stage = .free) (hnext : pc.stage = .free) :
      BatteryMove s a { s with pc }
  | connects {p : Peer} {r : Int × Table} (hpc : s.pc.stage = .free) (hfresh : p.Fresh s.table)
      (hmove : GetConnectionMove p s.table r) : BatteryMove s (.peer p) (s.connected r)
  | sendFails {w : Int} (hpc : s.pc.stage = .asking) :
      BatteryMove s (.sent w) { s with pc := .loop }
  | sends {w : Int} (hpc : s.pc.stage = .asking) (hw : w.toNat ≤ s.unsent.length) (hpos : 0 < w) :
      BatteryMove s (.sent w) (s.sends w.toNat)
  | receives {cs : List Char} (hpc : s.pc.stage = .waiting) (hcs : cs.length ≤ BUF_SIZE) :
      BatteryMove s (.response cs) (s.receives cs)
  | disconnects (hpc : s.pc.stage = .leaving) :
      BatteryMove s .go { s with pc := .pause, table := closeSocket s.table s.socket, j := 0 }
  | rested (hpc : s.pc.stage = .pausing) (hj : PAUSE ≤ s.j) :
      BatteryMove s .go { s with pc := .whileTest }
  | sleeps (hpc : s.pc.stage = .pausing) (hj : s.j < PAUSE) :
      BatteryMove s (.running true)
        { s with j := s.j + 1, rest := { s.rest with slept := s.rest.slept + 1 } }
  | stopped (hpc : s.pc.stage = .pausing) (hj : s.j < PAUSE) :
      BatteryMove s (.running false)
        { s with pc := .whileTest, rest := { s.rest with stopped := true } }

theorem batteryStep_move {s t : BatteryState} {a : Answer}
    (h : batteryStep strerror s a = some t) : BatteryMove s a t := by
  unfold batteryStep at h
  split at h
  case h_1 b hpc | h_2 b hpc =>
    cases h
    refine .goes (hpc ▸ rfl) ?_
    split <;> rfl
  case h_3 p hpc =>
    split at h
    · cases h
      exact .connects (hpc ▸ rfl) ‹_› (getConnection_move strerror p s.table)
    · cases h
  case h_4 w hpc =>
    split at h
    · cases h
      exact .sendFails (hpc ▸ rfl)
    · rename_i hpos
      split at h
      · cases h
        exact .sends (hpc ▸ rfl) ‹_› (Int.not_le.mp hpos)
      · cases h
  case h_5 cs hpc =>
    split at h
    · cases h
      exact .receives (hpc ▸ rfl) ‹_›
    · cases h
  case h_6 hpc => cases h; exact .disconnects (hpc ▸ rfl)
  case h_7 hpc =>
    split at h
    · cases h
    · cases h
      exact .rested (hpc ▸ rfl) (Nat.not_lt.mp ‹_›)
  case h_8 b hpc =>
    split at h
    · cases h
      split
      · rename_i hb
        subst hb
        exact .sleeps (hpc ▸ rfl) ‹_›
      · rename_i hb
        obtain rfl : b = false := Bool.eq_false_iff.mpr hb
        exact .stopped (hpc ▸ rfl) ‹_›
    · cases h
  case h_9 => cases h

/-- `Send` goes on until nothing is left. -/
theorem sends_stage (s : BatteryState) (w : Nat) : (s.sends w).pc.stage = .asking ∨
    (s.sends w).pc.stage = .waiting ∧ (s.sends w).unsent = [] := by
  simp only [BatteryState.sends]
  split
  · rename_i hend
    exact Or.inr ⟨rfl, hend⟩
  · exact Or.inl rfl

theorem connected_stage (s : BatteryState) (r : Int × Table) :
    (s.connected r).pc.stage = .leaving ∨ (s.connected r).pc.stage = .asking := by
  simp only [BatteryState.connected]
  split
  · exact Or.inl rfl
  · exact Or.inr rfl

/-! ### The label of a response -/

/-- What is shown of a response when `battery_value` is still empty. -/
def displayed (response : List Char) : List Char :=
  match batteryValueOf (received response) (CharArray.zero VALUE_SIZE) with
  | .ok value => cstr value.chars
  | .error _ => []

/-- A label is made of its own response, with nothing of an earlier one. -/
structure Shown (response label : List Char) : Prop where
  nonempty : response ≠ []
  own : label = displayed response
  digits : ∃ ds : List Char, ds.length ≤ VALUE_SIZE - 2 ∧ (∀ c ∈ ds, c.isDigit = true) ∧
    label = withPercent ds
  page : (afterFirst CRLFCRLF (received response).chars).isSome = true →
    label = BatteryLabel.label (received response).chars

/-- **One response**: every access stays in its array, whatever the last turn has left in
    `battery_value`. -/
theorem batteryTurn_shown (batteryValue : CharArray VALUE_SIZE) {response : List Char}
    (hne : response ≠ []) :
    ∃ value, batteryTurn batteryValue response = .ok (some value) ∧
      Shown response (cstr value.chars) := by
  obtain ⟨k, hk, -⟩ := skipHeader_stopped (received response) (Nat.zero_le (BUF_SIZE - 4))
  obtain ⟨value, hvalue, hlabel⟩ := batteryValueOf_eq batteryValue hk
  obtain ⟨first, hfirst, hfirstLabel⟩ := batteryValueOf_eq (CharArray.zero VALUE_SIZE) hk
  have hturn : batteryTurn batteryValue response = .ok (some value) := by
    rw [batteryTurn, if_neg hne, hvalue]
    rfl
  refine ⟨value, hturn, hne, ?_, ⟨_, List.length_take_le _ _, ?_, hlabel⟩, ?_⟩
  · simp only [displayed, hfirst, hlabel, hfirstLabel]
  · exact fun c hc => List.mem_takeWhile_imp (List.mem_of_mem_take hc)
  · intro hheader
    obtain ⟨rest, hrest⟩ := Option.isSome_iff_exists.mp hheader
    have hlabelled : Labelled batteryValue response := labelled_of_header hne hrest
    obtain ⟨shown, hshown, heq⟩ := hlabelled
    rw [hturn] at hshown
    cases hshown
    exact heq value rfl

/-! ### The thread -/

/-- The socket of this turn, until `disconnect`. -/
def BatteryState.phone (s : BatteryState) : List Int :=
  match s.pc.stage with
  | .asking | .waiting | .leaving => socketList s.socket
  | _ => []

/-- The descriptors besides the socket; the one that may have been lost is 0. -/
def Kept (held kept : List Int) : Prop := kept = held ∨ kept = 0 :: held ∧ 0 ∉ held

structure Inv (held : List Int) (s : BatteryState) : Prop where
  holds : ∃ kept, Kept held kept ∧ s.table.Holds (s.phone ++ kept)
  socket : SocketVar s.socket
  request : s.asked ++ s.unsent = BATTERY_REQ
  whole : s.pc.stage = .waiting → s.unsent = []
  shown : ∀ e ∈ s.shown, Shown e.1 e.2
  inside : s.pc ≠ .faulted

/-- A descriptor 0 that is left open was not in use. -/
theorem fresh_zero {p : Peer} {t : Table} (hfresh : p.Fresh t) (hzero : p.LeavesZero) :
    0 ∉ t.live := by
  rw [Peer.LeavesZero] at hzero
  split at hzero
  · exact hzero.2 ▸ hfresh.2
  · have hret : p.network.socket.ret = 0 := by rw [hzero.1.1, Reply.ret_value]; rfl
    exact hret ▸ hfresh.1

theorem Inv.init (held : List Int) : Inv held (BatteryState.init held) where
  holds := ⟨held, Or.inl rfl, List.Perm.refl held, rfl⟩
  socket := Or.inl rfl
  request := rfl
  whole := nofun
  shown := nofun
  inside := nofun

section
variable {held : List Int} {s : BatteryState}

/-- Without a socket of its own the thread holds what is kept. -/
theorem Inv.kept (hs : Inv held s) (hphone : s.phone = []) :
    ∃ kept, Kept held kept ∧ s.table.Holds kept := by
  obtain ⟨kept, hkept, hholds⟩ := hs.holds
  rw [hphone] at hholds
  exact ⟨kept, hkept, hholds⟩

/-- A new connection: a socket, none, or a descriptor 0 that nobody closes. -/
theorem Inv.connected {p : Peer} {r : Int × Table} (hs : Inv held s) (hpc : s.pc.stage = .free)
    (hfresh : p.Fresh s.table) (hmove : GetConnectionMove p s.table r) :
    Inv held (s.connected r) := by
  obtain ⟨kept, hkept, hholds⟩ := hs.kept (by rw [BatteryState.phone, hpc])
  cases hmove with
  | failed hzero => exact ⟨⟨kept, hkept, hholds⟩, Or.inl rfl, rfl, nofun, hs.shown, nofun⟩
  | dropped hzero =>
      have hnot := mt hholds.live.mem_iff.mpr (fresh_zero hfresh hzero)
      -- `get_connection` dropped a descriptor 0; a second one cannot come, as the first
      -- is still open
      rcases hkept with rfl | ⟨rfl, -⟩
      · exact ⟨⟨0 :: kept, Or.inr ⟨rfl, hnot⟩, hholds.opened 0⟩, Or.inl rfl, rfl, nofun, hs.shown,
          nofun⟩
      · exact absurd List.mem_cons_self hnot
  | opened fd hfd =>
      have hvalid : fd ≠ INVALID_SOCKET := by
        rw [INVALID_SOCKET]
        omega
      have hsend : (s.connected (fd, s.table.opened fd)).pc = .send := if_neg hvalid
      refine ⟨⟨kept, hkept, ?_⟩, Or.inr hfd, rfl, ?_, hs.shown, ?_⟩
      · have hphone : (s.connected (fd, s.table.opened fd)).phone = [fd] := by
          simp only [BatteryState.phone, hsend, BatteryPc.stage]
          exact if_neg hvalid
        rw [hphone]
        exact hholds.opened fd
      · intro hstage
        rw [hsend] at hstage
        cases hstage
      · intro hfault
        rw [hsend] at hfault
        cases hfault

/-- What `send` has taken leaves the front of what is unsent. -/
theorem Inv.sends (hs : Inv held s) (hpc : s.pc.stage = .asking) (w : Nat) :
    Inv held (s.sends w) := by
  obtain ⟨kept, hkept, hholds⟩ := hs.holds
  simp only [BatteryState.phone, hpc] at hholds
  have hstage := sends_stage s w
  refine ⟨⟨kept, hkept, ?_⟩, hs.socket, ?_, ?_, hs.shown, ?_⟩
  · rcases hstage with hstage | ⟨hstage, -⟩
    all_goals
      simp only [BatteryState.phone, hstage]
      exact hholds
  · calc s.asked ++ s.unsent.take w ++ s.unsent.drop w
        = s.asked ++ s.unsent := by rw [List.append_assoc, List.take_append_drop]
      _ = BATTERY_REQ := hs.request
  · rcases hstage with hstage | ⟨-, hend⟩
    · rw [hstage]
      nofun
    · exact fun _ => hend
  · intro hfault
    rw [hfault] at hstage
    simp [BatteryPc.stage] at hstage

/-- A label is shown for what has come, and for nothing else. -/
theorem Inv.receives (hs : Inv held s) (hpc : s.pc.stage = .waiting) (response : List Char) :
    Inv held (s.receives response) := by
  obtain ⟨kept, hkept, hholds⟩ := hs.holds
  simp only [BatteryState.phone, hpc] at hholds
  by_cases hne : response = []
  · have hturn : batteryTurn s.batteryValue response = .ok none := if_pos hne
    rw [BatteryState.receives, hturn]
    exact ⟨⟨kept, hkept, hholds⟩, hs.socket, hs.request, nofun, hs.shown, nofun⟩
  · obtain ⟨value, hturn, hshown⟩ := batteryTurn_shown s.batteryValue hne
    rw [BatteryState.receives, hturn]
    refine ⟨⟨kept, hkept, hholds⟩, hs.socket, hs.request, nofun, ?_, nofun⟩
    exact List.forall_mem_cons.mpr ⟨hshown, hs.shown⟩

/-- **One step** keeps the socket, the request and the labels. -/
theorem Inv.step {t : BatteryState} {a : Answer} (hs : Inv held s) (h : Step strerror s a t) :
    Inv held t := by
  obtain ⟨kept, hkept, hholds⟩ := hs.holds
  cases batteryStep_move strerror h with
  | @goes _ pc hpc hnext =>
      simp only [BatteryState.phone, hpc] at hholds
      refine ⟨⟨kept, hkept, ?_⟩, hs.socket, hs.request, ?_, hs.shown, ?_⟩
      · simpa only [BatteryState.phone, hnext] using hholds
      · simp only [hnext]
        nofun
      · rintro rfl
        cases hnext
  -- the only step that may leave a socket behind
  | connects hpc hfresh hmove => exact hs.connected hpc hfresh hmove
  | sendFails hpc =>
      simp only [BatteryState.phone, hpc] at hholds
      exact ⟨⟨kept, hkept, hholds⟩, hs.socket, hs.request, nofun, hs.shown, nofun⟩
  | sends hpc => exact hs.sends hpc _
  | receives hpc => exact hs.receives hpc _
  | disconnects hpc =>
      simp only [BatteryState.phone, hpc] at hholds
      exact ⟨⟨kept, hkept, closeSocket_holds hs.socket hholds⟩, hs.socket, hs.request, nofun,
        hs.shown, nofun⟩
  | rested hpc hj =>
      simp only [BatteryState.phone, hpc] at hholds
      exact ⟨⟨kept, hkept, hholds⟩, hs.socket, hs.request, nofun, hs.shown, nofun⟩
  -- still inside the pause: nothing but the counter and the time moves
  | sleeps hpc hj =>
      simp only [BatteryState.phone, hpc] at hholds
      refine ⟨⟨kept, hkept, ?_⟩, hs.socket, hs.request, ?_, hs.shown, hs.inside⟩
      · simpa only [BatteryState.phone, hpc] using hholds
      · rw [hpc]
        nofun
  | stopped hpc hj =>
      simp only [BatteryState.phone, hpc] at hholds
      exact ⟨⟨kept, hkept, hholds⟩, hs.socket, hs.request, nofun, hs.shown, nofun⟩

theorem Inv.run {as : List Answer}
    (h : Run (Step strerror) (BatteryState.init held) as s) : Inv held s :=
  Run.invariant (fun _ _ _ hs h => hs.step strerror h) (Inv.init held) h

end

/-! ### The pace

What the thread has slept since its last connection is told by the stretch it is in, so
that a new connection always finds a pause that is over. -/

/-- A pause was slept to its end, or broken off because both flags were off. -/
def Rest.Whole (r : Rest) : Prop := r.stopped = false → r.slept = PAUSE

instance (r : Rest) : Decidable r.Whole := inferInstanceAs (Decidable (_ → _))

/-- Since the last connection, if there was one: the pause is over before the loop turns,
    it has not begun while the socket is in use, and `j` counts it in between. -/
def BatteryState.Rested (s : BatteryState) : Prop :=
  match s.pc.stage with
  | .free => s.connections ≠ 0 → s.rest.Whole
  | .asking | .waiting | .leaving => s.rest = .none
  | .pausing => s.rest = ⟨s.j, false⟩ ∧ s.j ≤ PAUSE
  | .faulted => True

/-- Each connection but the first has waited. -/
structure Paced (s : BatteryState) : Prop where
  rested : s.Rested
  rests : ∀ r ∈ s.rests, r.Whole
  counted : s.rests.length = s.connections - 1

theorem Paced.init (held : List Int) : Paced (BatteryState.init held) :=
  ⟨fun h => absurd rfl h, nofun, rfl⟩

section
variable {held : List Int} {s : BatteryState}

/-- A new connection enters the pause before it. -/
theorem Paced.connected (hs : Paced s) (hpc : s.pc.stage = .free) (r : Int × Table) :
    Paced (s.connected r) := by
  have hrested : s.connections ≠ 0 → s.rest.Whole := by
    have h := hs.rested
    rwa [BatteryState.Rested, hpc] at h
  refine ⟨?_, ?_, ?_⟩
  · rcases connected_stage s r with hstage | hstage
    all_goals
      rw [BatteryState.Rested, hstage]
      rfl
  · simp only [BatteryState.connected]
    split
    · nofun
    · rename_i hconnections
      exact List.forall_mem_cons.mpr ⟨hrested hconnections, hs.rests⟩
  · have hcounted := hs.counted
    -- the first connection has no pause before it
    simp only [BatteryState.connected]
    split
    · rename_i hconnections
      rw [hconnections]
      rfl
    · rw [List.length_cons]
      omega

/-- **One step** keeps the pace. -/
theorem Paced.step {t : BatteryState} {a : Answer} (hs : Paced s) (h : Step strerror s a t) :
    Paced t := by
  obtain ⟨hrested, hrests, hcounted⟩ := hs
  cases batteryStep_move strerror h with
  | goes hpc hnext =>
      refine ⟨?_, hrests, hcounted⟩
      rw [BatteryState.Rested, hpc] at hrested
      rwa [BatteryState.Rested, hnext]
  | connects hpc => exact Paced.connected ⟨hrested, hrests, hcounted⟩ hpc _
  | sendFails hpc =>
      rw [BatteryState.Rested, hpc] at hrested
      exact ⟨hrested, hrests, hcounted⟩
  | sends hpc =>
      rw [BatteryState.Rested, hpc] at hrested
      refine ⟨?_, hrests, hcounted⟩
      rcases sends_stage s _ with hstage | ⟨hstage, -⟩
      all_goals
        rw [BatteryState.Rested, hstage]
        exact hrested
  -- an empty answer leads to the pause as a full one does, and a fault leaves the loop
  | @receives cs hpc =>
      rw [BatteryState.Rested, hpc] at hrested
      unfold BatteryState.receives
      split
      · exact ⟨trivial, hrests, hcounted⟩
      · exact ⟨hrested, hrests, hcounted⟩
      · exact ⟨hrested, hrests, hcounted⟩
  | disconnects hpc =>
      rw [BatteryState.Rested, hpc] at hrested
      exact ⟨⟨hrested, Nat.zero_le PAUSE⟩, hrests, hcounted⟩
  | rested hpc hj =>
      rw [BatteryState.Rested, hpc] at hrested
      obtain ⟨hrest, hle⟩ := hrested
      refine ⟨fun _ _ => ?_, hrests, hcounted⟩
      show s.rest.slept = PAUSE
      rw [hrest]
      exact Nat.le_antisymm hle hj
  | sleeps hpc hj =>
      rw [BatteryState.Rested, hpc] at hrested
      refine ⟨?_, hrests, hcounted⟩
      rw [BatteryState.Rested, hpc]
      refine ⟨?_, hj⟩
      show (⟨s.rest.slept + 1, s.rest.stopped⟩ : Rest) = ⟨s.j + 1, false⟩
      rw [hrested.1]
  | stopped hpc hj =>
      refine ⟨fun _ hstopped => ?_, hrests, hcounted⟩
      cases hstopped

end

/-! ### Whole runs -/

/-- **The battery thread.**  Besides the socket of the turn it keeps nothing open, but for a
descriptor 0 that was free when the thread was started, and it closes nothing else.  A phone
is sent a front of `BATTERY_REQ`, and the whole of it before the answer is read.  Every label
is made of its own response.  Between each connection and the next lie 30 seconds, unless
both flags were found off in between. -/
theorem battery_turns {held : List Int} {as : List Answer} {s : BatteryState}
    (h : Run (Step strerror) (BatteryState.init held) as s) :
    (∃ kept, Kept held kept ∧ s.table.Holds (s.phone ++ kept)) ∧
      s.asked <+: BATTERY_REQ ∧ (s.pc = .recvAll → s.asked = BATTERY_REQ) ∧
      (s.pc ≠ .faulted ∧ ∀ e ∈ s.shown, Shown e.1 e.2) ∧
      s.rests.length = s.connections - 1 ∧ ∀ r ∈ s.rests, r.stopped = false → r.slept = PAUSE := by
  have hinv := Inv.run strerror h
  have hpaced : Paced s :=
    Run.invariant (fun _ _ _ hs hstep => hs.step strerror hstep) (Paced.init held) h
  refine ⟨hinv.holds, ⟨s.unsent, hinv.request⟩, fun hpc => ?_, ⟨hinv.inside, hinv.shown⟩,
    hpaced.counted, hpaced.rests⟩
  have hrequest := hinv.request
  rwa [hinv.whole (hpc ▸ rfl), List.append_nil] at hrequest

/-- A phone at the usb port, and what is read from it in the first turn of the thread. -/
def usbPhone : Peer := ⟨CB_RADIO_IOS, ⟨1, 5⟩, refusingPeer, 0⟩

def firstTurn : List Answer :=
  [.running true, .active false, .running true, .active true, .peer usbPhone, .sent 20, .sent 5,
    .response "HTTP/1.0 200 OK\r\n\r\n87".toList]

theorem battery_turns_first :
    ∃ s, Run (Step fun _ => "") (BatteryState.init [0, 1, 2]) firstTurn s ∧
      s.asked <+: BATTERY_REQ ∧ s.shown.map Prod.snd = ["87%".toList] ∧ ∀ e ∈ s.shown, Shown e.1 e.2 := by
  obtain ⟨s, hs, hstate⟩ := Option.map_eq_some_iff.mp
    (by decide +kernel : (execute (batteryStep fun _ => "") (BatteryState.init [0, 1, 2])
      firstTurn).map (fun s => s.shown.map Prod.snd) = some ["87%".toList])
  obtain ⟨-, hasked, -, ⟨-, hshown⟩, -, -⟩ := battery_turns (fun _ => "") (Run.of_execute hs)
  exact ⟨s, Run.of_execute hs, hasked, hstate, hshown⟩

end DroidCam.BatteryThread
