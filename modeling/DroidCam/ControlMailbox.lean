import DroidCam.VideoThreads
import DroidCam.Lib.SlotChannel

/-
  DroidCam/ControlMailbox.lean
  ============================
  The variables through which a control request reaches the video thread.

  `thread_cmd` holds one command, 0 for none.  The video thread reads it several
  times before it clears it: the test, the choice of the format, the arguments of
  `snprintf`.  Every read and every write is a step of its own.  What the writers
  do is in `GuiControls` and `CliControls`; here is the thread that serves them,
  and why a writer that only stores into an empty mailbox has a channel with room
  for one request.
-/

namespace DroidCam.ControlMailbox

open LabelledRun SlotChannel VideoThreads

/-! ### Codes and requests -/

def CB_CONTROL_EL_OFF : Nat := 1

def CB_CONTROL_EL_ON : Nat := 2

def CB_CONTROL_ZOOM_IN : Nat := 6

def CB_CONTROL_ZOOM_OUT : Nat := 7

def CB_CONTROL_AF : Nat := 8

def CB_CONTROL_LED : Nat := 9

/-- `OTHER_REQ`. -/
def otherReqInt (threadCmd : Nat) : String := "CMD /v1/ctl?" ++ toString threadCmd

/-- `OTHER_REQ_STR`. -/
def otherReqStr (threadCmd : Nat) (val : String) : String :=
  "CMD /v1/ctl?" ++ toString threadCmd ++ "=" ++ val

/-- What a writer means by one store; `val` is chosen for white balance only. -/
structure Request where
  cmd : Nat
  val : String
deriving DecidableEq, Repr

/-- The text that should reach `Send`. -/
def Request.text (r : Request) : String := otherReq r.cmd r.val

theorem Request.text_str {r : Request} (h : r.cmd = CB_CONTROL_WB) :
    r.text = otherReqStr r.cmd r.val := if_pos h

theorem Request.text_int {r : Request} (h : r.cmd ≠ CB_CONTROL_WB) :
    r.text = otherReqInt r.cmd := if_neg h

/-! ### State -/

/-- Where `VideoThreadProc` stands.  `formatStr` has read some of its arguments, in
    the order the compiler chose. -/
inductive SenderPc where
  | ended
  | serverWait
  | loop
  | test
  | choose
  | formatStr (cmd : Option Nat) (val : Option String)
  | formatInt
  | send (text : String)
  | reset
  | frame
  | earlyOut
deriving DecidableEq, Repr

/-- The shared variables, the video thread, and a writer at `wpc`. -/
structure ControlState (ω : Type) where
  vRunning : Int
  threadCmd : Nat
  threadCmdValStr : String
  vpc : SenderPc
  wpc : ω
  -- history: the requests stored, and the texts passed to `Send`
  stored : List Request
  sent : List String

variable {ω : Type}

/-- The program before the first session. -/
def ControlState.init (wpc : ω) : ControlState ω := ⟨0, 0, "", .ended, wpc, [], []⟩

/-- `thread_cmd = r.cmd`. -/
def ControlState.store (s : ControlState ω) (r : Request) (wpc : ω) : ControlState ω :=
  { s with threadCmd := r.cmd, stored := s.stored ++ [r], wpc }

/-! ### `VideoThreadProc`

One constructor for each statement that reads or writes a shared variable, so that the
other side may come in between any two of them. -/

inductive SenderAct where
  | go
  | readCmd
  | readVal
  /-- The connection up to the stream, a frame, or `keep_waiting`. -/
  | env (ok : Bool)
deriving DecidableEq, Repr

def senderStep (s : ControlState ω) (a : SenderAct) : Option (ControlState ω) :=
  match s.vpc, a with
  | .serverWait, .env ok => some { s with vpc := if ok then .loop else .earlyOut }
  -- while (v_running != 0)
  | .loop, .go => some { s with vpc := if s.vRunning ≠ 0 then .test else .earlyOut }
  -- if (thread_cmd != 0)
  | .test, .go => some { s with vpc := if s.threadCmd ≠ 0 then .choose else .frame }
  -- if (thread_cmd == CB_CONTROL_WB)
  | .choose, .go =>
      some { s with vpc := if s.threadCmd = CB_CONTROL_WB then .formatStr none none
                           else .formatInt }
  -- snprintf; the text is never empty
  | .formatStr none val, .readCmd => some { s with vpc := .formatStr (some s.threadCmd) val }
  | .formatStr cmd none, .readVal => some { s with vpc := .formatStr cmd (some s.threadCmdValStr) }
  | .formatStr (some cmd) (some val), .go => some { s with vpc := .send (otherReqStr cmd val) }
  | .formatInt, .go => some { s with vpc := .send (otherReqInt s.threadCmd) }
  -- Send(buf, len); its result is not looked at
  | .send text, .go => some { s with sent := s.sent ++ [text], vpc := .reset }
  | .reset, .go => some { s with threadCmd := 0, vpc := .frame }
  -- one frame; a failing RecvAll leaves the loop
  | .frame, .env ok => some { s with vpc := if ok then .loop else .earlyOut }
  | .earlyOut, .env keepWaiting =>
      some { s with vpc := if s.vRunning ≠ 0 ∧ keepWaiting then .serverWait else .ended }
  | _, _ => none

/-- What one step of the video thread is. -/
inductive SenderMove (s : ControlState ω) : SenderAct → ControlState ω → Prop where
  | connect {ok : Bool} (hpc : s.vpc = .serverWait) :
      SenderMove s (.env ok) { s with vpc := if ok then .loop else .earlyOut }
  | loop (hpc : s.vpc = .loop) :
      SenderMove s .go { s with vpc := if s.vRunning ≠ 0 then .test else .earlyOut }
  | test (hpc : s.vpc = .test) :
      SenderMove s .go { s with vpc := if s.threadCmd ≠ 0 then .choose else .frame }
  | choose (hpc : s.vpc = .choose) :
      SenderMove s .go { s with vpc := if s.threadCmd = CB_CONTROL_WB then .formatStr none none
                                       else .formatInt }
  | readCmd {val : Option String} (hpc : s.vpc = .formatStr none val) :
      SenderMove s .readCmd { s with vpc := .formatStr (some s.threadCmd) val }
  | readVal {cmd : Option Nat} (hpc : s.vpc = .formatStr cmd none) :
      SenderMove s .readVal { s with vpc := .formatStr cmd (some s.threadCmdValStr) }
  | formatStr {cmd : Nat} {val : String} (hpc : s.vpc = .formatStr (some cmd) (some val)) :
      SenderMove s .go { s with vpc := .send (otherReqStr cmd val) }
  | formatInt (hpc : s.vpc = .formatInt) :
      SenderMove s .go { s with vpc := .send (otherReqInt s.threadCmd) }
  | send {text : String} (hpc : s.vpc = .send text) :
      SenderMove s .go { s with sent := s.sent ++ [text], vpc := .reset }
  | reset (hpc : s.vpc = .reset) : SenderMove s .go { s with threadCmd := 0, vpc := .frame }
  | frame {ok : Bool} (hpc : s.vpc = .frame) :
      SenderMove s (.env ok) { s with vpc := if ok then .loop else .earlyOut }
  | earlyOut {keepWaiting : Bool} (hpc : s.vpc = .earlyOut) :
      SenderMove s (.env keepWaiting)
        { s with vpc := if s.vRunning ≠ 0 ∧ keepWaiting then .serverWait else .ended }

theorem senderStep_move {s t : ControlState ω} {a : SenderAct} (h : senderStep s a = some t) :
    SenderMove s a t := by
  unfold senderStep at h
  split at h
  case h_1 hpc => cases h; exact .connect hpc
  case h_2 hpc => cases h; exact .loop hpc
  case h_3 hpc => cases h; exact .test hpc
  case h_4 hpc => cases h; exact .choose hpc
  case h_5 hpc => cases h; exact .readCmd hpc
  case h_6 hpc => cases h; exact .readVal hpc
  case h_7 hpc => cases h; exact .formatStr hpc
  case h_8 hpc => cases h; exact .formatInt hpc
  case h_9 hpc => cases h; exact .send hpc
  case h_10 hpc => cases h; exact .reset hpc
  case h_11 hpc => cases h; exact .frame hpc
  case h_12 hpc => cases h; exact .earlyOut hpc
  case h_13 => cases h

theorem SenderMove.step {s t : ControlState ω} {a : SenderAct} (h : SenderMove s a t) :
    senderStep s a = some t := by
  cases h with
  | _ hpc => simp only [senderStep, hpc]

/-- What the video thread leaves alone; it only ever clears `thread_cmd`. -/
theorem senderStep_frame {s t : ControlState ω} {a : SenderAct} (h : senderStep s a = some t) :
    t.vRunning = s.vRunning ∧ t.threadCmdValStr = s.threadCmdValStr ∧ t.wpc = s.wpc ∧
      t.stored = s.stored ∧ (t.threadCmd = s.threadCmd ∨ s.vpc = .reset ∧ t.threadCmd = 0) := by
  cases senderStep_move h with
  | reset hpc => exact ⟨rfl, rfl, rfl, rfl, Or.inr ⟨hpc, rfl⟩⟩
  | _ => exact ⟨rfl, rfl, rfl, rfl, Or.inl rfl⟩

/-- The thread has seen a command and has not passed it on. -/
def SenderPc.serving : SenderPc → Bool
  | .choose | .formatStr _ _ | .formatInt | .send _ => true
  | _ => false

/-! ### A channel for one request

A request is in the channel from its store until `send`; until the reset the shared
variables still show it, though the channel is empty again. -/

/-- The shared variables hold this request. -/
structure InMailbox (threadCmd : Nat) (valStr : String) (r : Request) : Prop where
  cmd : threadCmd = r.cmd
  pos : r.cmd ≠ 0
  val : r.cmd = CB_CONTROL_WB → valStr = r.val

/-- What the slot of the channel is while the thread stands where it does: full from
    the store to `Send`, which comes before the reset. -/
def Held (threadCmd : Nat) (valStr : String) (slot : Option Request) : SenderPc → Prop
  | .choose => ∃ r, slot = some r ∧ InMailbox threadCmd valStr r
  | .formatStr cmd val => ∃ r, slot = some r ∧ InMailbox threadCmd valStr r ∧
      r.cmd = CB_CONTROL_WB ∧ (∀ x, cmd = some x → x = r.cmd) ∧ ∀ v, val = some v → v = r.val
  | .formatInt => ∃ r, slot = some r ∧ InMailbox threadCmd valStr r ∧ r.cmd ≠ CB_CONTROL_WB
  | .send text => ∃ r, slot = some r ∧ InMailbox threadCmd valStr r ∧ text = r.text
  | .reset => slot = none ∧ threadCmd ≠ 0
  | .ended | .serverWait | .loop | .test | .frame | .earlyOut =>
      (slot = none ∧ threadCmd = 0) ∨ ∃ r, slot = some r ∧ InMailbox threadCmd valStr r

/-- The mailbox simulates the channel `c`. -/
structure Simulates (s : ControlState ω) (c : Channel Request) : Prop where
  accepted : c.accepted = s.stored
  delivered : c.delivered.map Request.text = s.sent
  slot : Held s.threadCmd s.threadCmdValStr c.slot s.vpc

theorem Simulates.init (wpc : ω) : Simulates (ControlState.init wpc) Channel.empty where
  accepted := rfl
  delivered := rfl
  slot := Or.inl ⟨rfl, rfl⟩

/-- A slot that is full is in the mailbox. -/
theorem Held.full {threadCmd : Nat} {valStr : String} {r : Request} {vpc : SenderPc}
    (h : Held threadCmd valStr (some r) vpc) : InMailbox threadCmd valStr r := by
  cases vpc with
  | choose =>
      obtain ⟨q, hslot, hq⟩ := h
      exact Option.some.inj hslot ▸ hq
  | formatStr | formatInt | send =>
      obtain ⟨q, hslot, hq, -⟩ := h
      exact Option.some.inj hslot ▸ hq
  | reset => exact absurd h.1 (by simp)
  | _ =>
      rcases h with ⟨hslot, -⟩ | ⟨q, hslot, hq⟩
      · exact absurd hslot (by simp)
      · exact Option.some.inj hslot ▸ hq

/-- An empty `thread_cmd` is an empty slot, and the thread is not about to clear it. -/
theorem Held.empty {valStr : String} {slot : Option Request} {vpc : SenderPc}
    (h : Held 0 valStr slot vpc) :
    slot = none ∧ vpc.serving = false ∧ vpc ≠ .reset := by
  have hnot : ∀ r, InMailbox 0 valStr r → False := fun r hr => hr.pos hr.cmd.symm
  cases vpc with
  | choose =>
      obtain ⟨r, -, hr⟩ := h
      exact (hnot r hr).elim
  | formatStr | formatInt | send =>
      obtain ⟨r, -, hr, -⟩ := h
      exact (hnot r hr).elim
  | reset => exact absurd rfl h.2
  | _ =>
      rcases h with ⟨hslot, -⟩ | ⟨r, -, hr⟩
      · exact ⟨hslot, rfl, by simp⟩
      · exact (hnot r hr).elim

/-- A step that the channel does not see. -/
theorem Simulates.stay {s t : ControlState ω} {c : Channel Request} (hs : Simulates s c)
    (hslot : Held t.threadCmd t.threadCmdValStr c.slot t.vpc) (hstored : t.stored = s.stored)
    (hsent : t.sent = s.sent) : ∃ es d, Run SlotChannel.Step c es d ∧ Simulates t d :=
  ⟨[], c, Run.nil c, hstored ▸ hs.accepted, hsent ▸ hs.delivered, hslot⟩

/-- **A step of the video thread** takes the request from the channel when it sends,
    and is no step of the channel otherwise. -/
theorem Simulates.senderStep {s t : ControlState ω} {c : Channel Request} {a : SenderAct}
    (hs : Simulates s c) (h : senderStep s a = some t) :
    ∃ es d, Run SlotChannel.Step c es d ∧ Simulates t d := by
  have hslot := hs.slot
  cases senderStep_move h with
  | @connect ok hpc =>
      rw [hpc] at hslot
      refine hs.stay ?_ rfl rfl
      cases ok <;> exact hslot
  | loop hpc =>
      rw [hpc] at hslot
      refine hs.stay ?_ rfl rfl
      show Held _ _ _ (if s.vRunning ≠ 0 then SenderPc.test else SenderPc.earlyOut)
      split <;> exact hslot
  | test hpc =>
      -- a command that is there stays there until the reset
      rw [hpc] at hslot
      refine hs.stay ?_ rfl rfl
      show Held _ _ _ (if s.threadCmd ≠ 0 then SenderPc.choose else SenderPc.frame)
      split
      · rename_i hfull
        exact hslot.resolve_left fun hempty => hfull hempty.2
      · exact hslot
  -- the request is read in two places or in one, and none of them is behind the reset
  | choose hpc =>
      rw [hpc] at hslot
      obtain ⟨r, hr, hin⟩ := hslot
      refine hs.stay ?_ rfl rfl
      show Held _ _ _ (if s.threadCmd = CB_CONTROL_WB then SenderPc.formatStr none none
        else SenderPc.formatInt)
      rw [hin.cmd]
      split
      · rename_i hwb
        refine ⟨r, hr, ⟨rfl, hin.pos, hin.val⟩, hwb, ?_, ?_⟩
        · intro x hx
          cases hx
        · intro v hv
          cases hv
      · rename_i hwb
        exact ⟨r, hr, ⟨rfl, hin.pos, hin.val⟩, hwb⟩
  | @readCmd val hpc =>
      rw [hpc] at hslot
      obtain ⟨r, hr, hin, hwb, -, hval⟩ := hslot
      refine hs.stay ?_ rfl rfl
      refine ⟨r, hr, hin, hwb, ?_, hval⟩
      intro x hx
      exact (Option.some.inj hx).symm.trans hin.cmd
  | @readVal cmd hpc =>
      rw [hpc] at hslot
      obtain ⟨r, hr, hin, hwb, hcmd, -⟩ := hslot
      refine hs.stay ?_ rfl rfl
      refine ⟨r, hr, hin, hwb, hcmd, ?_⟩
      intro v hv
      exact (Option.some.inj hv).symm.trans (hin.val hwb)
  | @formatStr cmd val hpc =>
      rw [hpc] at hslot
      obtain ⟨r, hr, hin, hwb, hcmd, hval⟩ := hslot
      refine hs.stay ?_ rfl rfl
      refine ⟨r, hr, hin, ?_⟩
      rw [Request.text_str hwb, hcmd cmd rfl, hval val rfl]
  | formatInt hpc =>
      rw [hpc] at hslot
      obtain ⟨r, hr, hin, hwb⟩ := hslot
      refine hs.stay ?_ rfl rfl
      refine ⟨r, hr, hin, ?_⟩
      rw [Request.text_int hwb, hin.cmd]
  | @send text hpc =>
      -- the message leaves the channel
      rw [hpc] at hslot
      obtain ⟨r, hr, hin, rfl⟩ := hslot
      refine ⟨_, _, Run.single (.take hr), hs.accepted, ?_, rfl, ?_⟩
      · rw [List.map_append, hs.delivered, List.map_singleton]
      · exact hin.cmd ▸ hin.pos
  | reset hpc =>
      rw [hpc] at hslot
      refine hs.stay ?_ rfl rfl
      exact Or.inl ⟨hslot.1, rfl⟩
  | @frame ok hpc =>
      rw [hpc] at hslot
      refine hs.stay ?_ rfl rfl
      cases ok <;> exact hslot
  | @earlyOut keepWaiting hpc =>
      rw [hpc] at hslot
      refine hs.stay ?_ rfl rfl
      show Held _ _ _ (if s.vRunning ≠ 0 ∧ keepWaiting then SenderPc.serverWait
        else SenderPc.ended)
      split <;> exact hslot

/-- **A store into an empty mailbox** puts the request into the channel. -/
theorem Simulates.store {s : ControlState ω} {c : Channel Request} {r : Request}
    (hs : Simulates s c) (hzero : s.threadCmd = 0) (hcmd : r.cmd ≠ 0)
    (hval : r.cmd = CB_CONTROL_WB → s.threadCmdValStr = r.val) (wpc : ω) :
    ∃ es d, Run SlotChannel.Step c es d ∧ Simulates (s.store r wpc) d := by
  have hslot := hs.slot
  rw [hzero] at hslot
  obtain ⟨hnone, hserving, hreset⟩ := hslot.empty
  refine ⟨_, _, Run.single (.put (a := r) hnone), ?_, hs.delivered, ?_⟩
  · rw [hs.accepted, ControlState.store]
  · have hin : InMailbox r.cmd s.threadCmdValStr r := ⟨rfl, hcmd, hval⟩
    show Held r.cmd s.threadCmdValStr (some r) s.vpc
    cases hpc : s.vpc with
    | choose | formatStr | formatInt | send => simp [hpc, SenderPc.serving] at hserving
    | reset => exact absurd hpc hreset
    | _ => exact Or.inr ⟨r, rfl, hin⟩

/-! ### A stream that keeps running serves what is stored -/

/-- The thread is in its streaming loop. -/
def SenderPc.streaming : SenderPc → Bool
  | .ended | .serverWait | .earlyOut => false
  | _ => true

/-- The video thread alone comes to clear `thread_cmd`. -/
def Serves (s : ControlState ω) : Prop :=
  ∃ as t, Run (ofNext senderStep) s as t ∧ t.threadCmd = 0

theorem Serves.of_move {s t : ControlState ω} {a : SenderAct} (h : SenderMove s a t)
    (ht : Serves t) : Serves s := by
  obtain ⟨as, u, hrun, hu⟩ := ht
  exact ⟨[a] ++ as, u, (Run.single h.step).append hrun, hu⟩

theorem serves_reset {s : ControlState ω} (h : s.vpc = .reset) : Serves s :=
  Serves.of_move (.reset h) ⟨[], _, Run.nil _, rfl⟩

theorem serves_send {s : ControlState ω} {text : String} (h : s.vpc = .send text) : Serves s :=
  Serves.of_move (.send h) (serves_reset rfl)

theorem serves_formatStr {s : ControlState ω} {cmd : Option Nat} {val : Option String}
    (h : s.vpc = .formatStr cmd val) : Serves s := by
  -- the arguments that are still to be read, in either order
  have hboth : ∀ {t : ControlState ω} {c : Nat} {v : String},
      t.vpc = .formatStr (some c) (some v) → Serves t :=
    fun ht => Serves.of_move (.formatStr ht) (serves_send rfl)
  have hval : ∀ {t : ControlState ω} {c : Nat}, t.vpc = .formatStr (some c) none → Serves t :=
    fun ht => Serves.of_move (.readVal ht) (hboth rfl)
  cases cmd with
  | none =>
      apply Serves.of_move (.readCmd h)
      cases val with
      | none => exact hval rfl
      | some v => exact hboth rfl
  | some c =>
      cases val with
      | none => exact hval h
      | some v => exact hboth h

theorem serves_formatInt {s : ControlState ω} (h : s.vpc = .formatInt) : Serves s :=
  Serves.of_move (.formatInt h) (serves_send rfl)

theorem serves_choose {s : ControlState ω} (h : s.vpc = .choose) : Serves s := by
  apply Serves.of_move (.choose h)
  split
  · exact serves_formatStr rfl
  · exact serves_formatInt rfl

theorem serves_test {s : ControlState ω} (h : s.vpc = .test) : Serves s := by
  by_cases hcmd : s.threadCmd = 0
  · exact ⟨[], s, Run.nil s, hcmd⟩
  · apply Serves.of_move (.test h)
    exact serves_choose (if_pos hcmd)

theorem serves_loop {s : ControlState ω} (hrunning : s.vRunning ≠ 0) (h : s.vpc = .loop) :
    Serves s :=
  Serves.of_move (.loop h) (serves_test (if_pos hrunning))

/-- **A stream that keeps running serves the mailbox**: it needs one more frame at
    most. -/
theorem streaming_serves {s : ControlState ω} (hrunning : s.vRunning ≠ 0)
    (hvpc : s.vpc.streaming = true) : Serves s := by
  cases hpc : s.vpc with
  | loop => exact serves_loop hrunning hpc
  | test => exact serves_test hpc
  | choose => exact serves_choose hpc
  | formatStr cmd val => exact serves_formatStr hpc
  | formatInt => exact serves_formatInt hpc
  | send text => exact serves_send hpc
  | reset => exact serves_reset hpc
  | frame =>
      have hframe : SenderMove s (.env true) { s with vpc := .loop } := .frame hpc
      exact Serves.of_move hframe (serves_loop hrunning rfl)
  | ended | serverWait | earlyOut => simp [hpc, SenderPc.streaming] at hvpc

end DroidCam.ControlMailbox
