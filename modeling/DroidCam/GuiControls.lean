import DroidCam.ControlMailbox

/-
  DroidCam/GuiControls.lean
  =========================
  The callbacks of the GUI thread that store control requests.

  Each callback looks at `v_running` and at `thread_cmd` before it stores, without
  a lock.  The video thread only ever clears `thread_cmd`, and there is one GUI
  thread, so what the guard has seen still holds at the store: the mailbox is a
  channel with room for one request.
-/

namespace DroidCam.GuiControls

open LabelledRun SlotChannel VideoThreads ControlMailbox

/-! ### Callbacks -/

def wbValues : List String :=
  ["auto", "incandescent", "warm-fluorescent", "twilight", "fluorescent", "daylight",
    "cloudy-daylight", "shade"]

def wbOptions : List String :=
  ["Automatic", "Incandescent", "Warm Fluorescent", "Twilight", "Fluorescent", "Daylight",
    "Cloudy Daylight", "Shade"]

/-- Where the GUI thread stands in a callback, and in `Stop`. -/
inductive GuiPc where
  | idle
  | controls (cb : Nat)
  | controlsCmd (cb : Nat)
  | controlsStore (cb : Nat)
  | wb (cb : Nat)
  | wbCmd (cb : Nat)
  | wbVal (cb : Nat)
  | wbStore (cb : Nat)
  | el (active : Bool)
  | elCmd (active : Bool)
  | elStore (active : Bool)
  | joining
deriving DecidableEq, Repr

inductive GuiAct where
  | controlsCallback (cb : Nat)
  | wbCallback (cb : Nat)
  /-- `the_callback` with `CB_BTN_EL`; the state of the button. -/
  | elCallback (active : Bool)
  | start (video : Bool)
  | stop
  | go
deriving DecidableEq, Repr

abbrev GuiState := ControlState GuiPc

/-- The commands `controls_callback` stores; the flips it makes at once. -/
def storedCodes : List Nat :=
  [CB_CONTROL_ZOOM_IN, CB_CONTROL_ZOOM_OUT, CB_CONTROL_AF, CB_CONTROL_LED]

def wbRequest (cb : Nat) : Request := ⟨CB_CONTROL_WB, wbValues.getD cb ""⟩

def elRequest (active : Bool) : Request :=
  ⟨if active then CB_CONTROL_EL_ON else CB_CONTROL_EL_OFF, ""⟩

def guiStep (s : GuiState) (a : GuiAct) : Option GuiState :=
  match s.wpc, a with
  -- controls_callback
  | .idle, .controlsCallback cb => some { s with wpc := .controls cb }
  | .controls cb, .go =>
      some { s with wpc := if s.vRunning = 0 then .idle else .controlsCmd cb }
  | .controlsCmd cb, .go =>
      some { s with wpc := if s.threadCmd ≠ 0 then .idle
                           else if cb ∈ storedCodes then .controlsStore cb else .idle }
  | .controlsStore cb, .go => some (s.store ⟨cb, ""⟩ .idle)
  -- wb_callback
  | .idle, .wbCallback cb =>
      some { s with wpc := if cb < wbOptions.length then .wb cb else .idle }
  | .wb cb, .go => some { s with wpc := if s.vRunning = 1 then .wbCmd cb else .idle }
  | .wbCmd cb, .go => some { s with wpc := if s.threadCmd = 0 then .wbVal cb else .idle }
  | .wbVal cb, .go =>
      some { s with threadCmdValStr := (wbRequest cb).val, wpc := .wbStore cb }
  | .wbStore cb, .go => some (s.store (wbRequest cb) .idle)
  -- the_callback, CB_BTN_EL
  | .idle, .elCallback active => some { s with wpc := .el active }
  | .el active, .go => some { s with wpc := if s.vRunning ≠ 1 then .idle else .elCmd active }
  | .elCmd active, .go => some { s with wpc := if s.threadCmd ≠ 0 then .idle else .elStore active }
  | .elStore active, .go => some (s.store (elRequest active) .idle)
  -- the_callback, CB_BUTTON: Start, or Stop with its join
  | .idle, .start video =>
      if s.vRunning ≠ 0 then none
      else if video then some { s with vRunning := 1, vpc := .serverWait }
      else some s
  | .idle, .stop => some { s with vRunning := 0, wpc := .joining }
  | .joining, .go => if s.vpc = .ended then some { s with wpc := .idle } else none
  | _, _ => none

/-- What one step of the GUI is.  A callback that its guards turn away ends. -/
inductive GuiMove (s : GuiState) : GuiAct → GuiState → Prop where
  -- a command is waiting, or no video thread runs
  | refused {a : GuiAct} (hpc : s.wpc ≠ .joining) : GuiMove s a { s with wpc := .idle }
  | controls {cb : Nat} (hpc : s.wpc = .idle) :
      GuiMove s (.controlsCallback cb) { s with wpc := .controls cb }
  | controlsCmd {cb : Nat} (hpc : s.wpc = .controls cb) :
      GuiMove s .go { s with wpc := .controlsCmd cb }
  | controlsStore {cb : Nat} (hpc : s.wpc = .controlsCmd cb) (hzero : s.threadCmd = 0)
      (hcode : cb ∈ storedCodes) : GuiMove s .go { s with wpc := .controlsStore cb }
  | controlsStored {cb : Nat} (hpc : s.wpc = .controlsStore cb) :
      GuiMove s .go (s.store ⟨cb, ""⟩ .idle)
  | wb {cb : Nat} (hpc : s.wpc = .idle) : GuiMove s (.wbCallback cb) { s with wpc := .wb cb }
  | wbCmd {cb : Nat} (hpc : s.wpc = .wb cb) : GuiMove s .go { s with wpc := .wbCmd cb }
  | wbVal {cb : Nat} (hpc : s.wpc = .wbCmd cb) (hzero : s.threadCmd = 0) :
      GuiMove s .go { s with wpc := .wbVal cb }
  | wbStore {cb : Nat} (hpc : s.wpc = .wbVal cb) :
      GuiMove s .go { s with threadCmdValStr := (wbRequest cb).val, wpc := .wbStore cb }
  | wbStored {cb : Nat} (hpc : s.wpc = .wbStore cb) :
      GuiMove s .go (s.store (wbRequest cb) .idle)
  | el {active : Bool} (hpc : s.wpc = .idle) :
      GuiMove s (.elCallback active) { s with wpc := .el active }
  | elCmd {active : Bool} (hpc : s.wpc = .el active) :
      GuiMove s .go { s with wpc := .elCmd active }
  | elStore {active : Bool} (hpc : s.wpc = .elCmd active) (hzero : s.threadCmd = 0) :
      GuiMove s .go { s with wpc := .elStore active }
  | elStored {active : Bool} (hpc : s.wpc = .elStore active) :
      GuiMove s .go (s.store (elRequest active) .idle)
  | start (hpc : s.wpc = .idle) (hstopped : s.vRunning = 0) :
      GuiMove s (.start true) { s with vRunning := 1, vpc := .serverWait }
  | startAudio (hpc : s.wpc = .idle) (hstopped : s.vRunning = 0) : GuiMove s (.start false) s
  | stop (hpc : s.wpc = .idle) : GuiMove s .stop { s with vRunning := 0, wpc := .joining }
  | joined (hpc : s.wpc = .joining) (hended : s.vpc = .ended) :
      GuiMove s .go { s with wpc := .idle }

theorem guiStep_move {s t : GuiState} {a : GuiAct} (h : guiStep s a = some t) :
    GuiMove s a t := by
  unfold GuiControls.guiStep at h
  split at h
  case h_1 cb hpc => cases h; exact .controls hpc
  case h_2 cb hpc =>
    cases h
    split
    · exact .refused (by simp [hpc])
    · exact .controlsCmd hpc
  case h_3 cb hpc =>
    cases h
    split_ifs with hcmd hcode
    · exact .refused (by simp [hpc])
    · exact .controlsStore hpc (not_not.mp hcmd) hcode
    · exact .refused (by simp [hpc])
  case h_4 cb hpc => cases h; exact .controlsStored hpc
  case h_5 cb hpc =>
    cases h
    split
    · exact .wb hpc
    · exact .refused (by simp [hpc])
  case h_6 cb hpc =>
    cases h
    split
    · exact .wbCmd hpc
    · exact .refused (by simp [hpc])
  case h_7 cb hpc =>
    cases h
    split_ifs with hzero
    · exact .wbVal hpc hzero
    · exact .refused (by simp [hpc])
  case h_8 cb hpc => cases h; exact .wbStore hpc
  case h_9 cb hpc => cases h; exact .wbStored hpc
  case h_10 active hpc => cases h; exact .el hpc
  case h_11 active hpc =>
    cases h
    split
    · exact .refused (by simp [hpc])
    · exact .elCmd hpc
  case h_12 active hpc =>
    cases h
    split_ifs with hcmd
    · exact .refused (by simp [hpc])
    · exact .elStore hpc (not_not.mp hcmd)
  case h_13 active hpc => cases h; exact .elStored hpc
  case h_14 video hpc =>
    split_ifs at h with hrunning hvideo
    · cases h
      cases hvideo
      exact .start hpc (not_not.mp hrunning)
    · cases h
      cases Bool.not_eq_true _ ▸ hvideo
      exact .startAudio hpc (not_not.mp hrunning)
  case h_15 hpc => cases h; exact .stop hpc
  case h_16 hpc =>
    split_ifs at h with hended
    cases h
    exact .joined hpc hended
  case h_17 => cases h

inductive Act where
  | video (a : SenderAct)
  | gui (a : GuiAct)
deriving DecidableEq, Repr

def next (s : GuiState) : Act → Option GuiState
  | .video a => senderStep s a
  | .gui a => guiStep s a

abbrev Step : GuiState → Act → GuiState → Prop := ofNext next

def GuiState.init : GuiState := ControlState.init .idle

/-! ### What the guards keep -/

/-- Behind its guard a callback stores into an empty mailbox. -/
def Armed (threadCmd : Nat) (valStr : String) : GuiPc → Prop
  | .controlsStore cb => threadCmd = 0 ∧ cb ∈ storedCodes
  | .wbVal _ | .elStore _ => threadCmd = 0
  | .wbStore cb => threadCmd = 0 ∧ valStr = (wbRequest cb).val
  | _ => True

/-- The GUI and the video thread simulate the channel `c`. -/
structure Inv (s : GuiState) (c : Channel Request) : Prop where
  simulates : Simulates s c
  armed : Armed s.threadCmd s.threadCmdValStr s.wpc
  joined : s.wpc ≠ .joining → s.vRunning = 0 → s.vpc = .ended

theorem Armed.clear {threadCmd : Nat} {valStr : String} {wpc : GuiPc}
    (h : Armed threadCmd valStr wpc) : Armed 0 valStr wpc := by
  cases wpc with
  | controlsStore cb => exact ⟨rfl, h.2⟩
  | wbStore cb => exact ⟨rfl, h.2⟩
  | wbVal | elStore => exact rfl
  | _ => trivial

/-- A code that is stored is neither 0 nor that of white balance. -/
theorem storedCodes_plain {cb : Nat} (h : cb ∈ storedCodes) : cb ≠ 0 ∧ cb ≠ CB_CONTROL_WB := by
  simp only [storedCodes, List.mem_cons, List.not_mem_nil, or_false] at h
  rcases h with rfl | rfl | rfl | rfl <;> decide

theorem elRequest_plain (active : Bool) :
    (elRequest active).cmd ≠ 0 ∧ (elRequest active).cmd ≠ CB_CONTROL_WB := by
  cases active <;> decide

/-- A step of the GUI that neither stores nor touches what the video thread reads. -/
theorem Inv.quiet {s t : GuiState} {c : Channel Request} (hs : Inv s c)
    (hcmd : t.threadCmd = s.threadCmd) (hval : t.threadCmdValStr = s.threadCmdValStr)
    (hpc : t.vpc = s.vpc) (hstored : t.stored = s.stored) (hsent : t.sent = s.sent)
    (harmed : Armed s.threadCmd s.threadCmdValStr t.wpc)
    (hjoined : t.wpc ≠ .joining → t.vRunning = 0 → s.vpc = .ended) :
    ∃ es d, Run SlotChannel.Step c es d ∧ Inv t d := by
  refine ⟨[], c, Run.nil c, ⟨?_, ?_, ?_⟩, ?_, ?_⟩
  · rw [hstored]
    exact hs.simulates.accepted
  · rw [hsent]
    exact hs.simulates.delivered
  · rw [hcmd, hval, hpc]
    exact hs.simulates.slot
  · rwa [hcmd, hval]
  · rwa [hpc]

theorem Inv.store {s : GuiState} {c : Channel Request} {r : Request} (hs : Inv s c)
    (hzero : s.threadCmd = 0) (hcmd : r.cmd ≠ 0)
    (hval : r.cmd = CB_CONTROL_WB → s.threadCmdValStr = r.val)
    (hjoined : s.vRunning = 0 → s.vpc = .ended) :
    ∃ es d, Run SlotChannel.Step c es d ∧ Inv (s.store r .idle) d := by
  obtain ⟨es, d, hrun, hd⟩ := hs.simulates.store hzero hcmd hval .idle
  exact ⟨es, d, hrun, hd, trivial, fun _ => hjoined⟩

/-- The value is written while nothing is stored, so nobody reads it. -/
theorem Held.of_val {valStr : String} {slot : Option Request} {pc : SenderPc}
    (h : Held 0 valStr slot pc) (val : String) : Held 0 val slot pc := by
  obtain ⟨hnone, hserving, hreset⟩ := h.empty
  cases pc with
  | choose | formatStr | formatInt | send => simp [SenderPc.serving] at hserving
  | reset => exact absurd rfl hreset
  | _ => exact Or.inl ⟨hnone, rfl⟩

/-- **The GUI step lemma**: a store puts a request into the channel, and nothing
    else is a step of it. -/
theorem Inv.guiStep {s t : GuiState} {c : Channel Request} {a : GuiAct} (hs : Inv s c)
    (h : guiStep s a = some t) : ∃ es d, Run SlotChannel.Step c es d ∧ Inv t d := by
  have harmed := hs.armed
  have hjoined := hs.joined
  cases guiStep_move h with
  | refused hpc => exact hs.quiet rfl rfl rfl rfl rfl trivial fun _ => hjoined hpc
  | controls hpc | controlsCmd hpc | wb hpc | wbCmd hpc | el hpc | elCmd hpc =>
      exact hs.quiet rfl rfl rfl rfl rfl trivial fun _ => hjoined (by simp [hpc])
  | controlsStore hpc hzero hcode =>
      exact hs.quiet rfl rfl rfl rfl rfl ⟨hzero, hcode⟩ fun _ => hjoined (by simp [hpc])
  | wbVal hpc hzero | elStore hpc hzero =>
      exact hs.quiet rfl rfl rfl rfl rfl hzero fun _ => hjoined (by simp [hpc])
  | controlsStored hpc =>
      -- between the guard and the store only the video thread runs, and it only ever
      -- clears the command
      rw [hpc] at harmed
      obtain ⟨hzero, hcode⟩ := harmed
      have hplain := storedCodes_plain hcode
      exact hs.store hzero hplain.1 (fun hwb => absurd hwb hplain.2) (hjoined (by simp [hpc]))
  | @wbStore cb hpc =>
      rw [hpc] at harmed
      have hzero : s.threadCmd = 0 := harmed
      have hslot := hs.simulates.slot
      -- the value goes ahead of its command
      rw [hzero] at hslot
      refine ⟨[], c, Run.nil c, ⟨hs.simulates.accepted, hs.simulates.delivered, ?_⟩, ?_, ?_⟩
      · show Held s.threadCmd (wbRequest cb).val c.slot s.vpc
        rw [hzero]
        exact Held.of_val hslot _
      · exact ⟨hzero, rfl⟩
      · exact fun _ => hjoined (by simp [hpc])
  | @wbStored cb hpc =>
      rw [hpc] at harmed
      obtain ⟨hzero, hval⟩ := harmed
      have hcode : (wbRequest cb).cmd ≠ 0 := show CB_CONTROL_WB ≠ 0 by decide
      exact hs.store hzero hcode (fun _ => hval) (hjoined (by simp [hpc]))
  | @elStored active hpc =>
      rw [hpc] at harmed
      have hplain := elRequest_plain active
      exact hs.store harmed hplain.1 (fun hwb => absurd hwb hplain.2) (hjoined (by simp [hpc]))
  | start hpc hstopped =>
      -- the last video thread has been joined
      have hslot := hs.simulates.slot
      rw [hjoined (by simp [hpc]) hstopped] at hslot
      refine ⟨[], c, Run.nil c, ⟨hs.simulates.accepted, hs.simulates.delivered, hslot⟩, harmed, ?_⟩
      intro _ hzero
      exact absurd hzero (by simp)
  | startAudio => exact ⟨[], c, Run.nil c, hs⟩
  | stop => exact hs.quiet rfl rfl rfl rfl rfl trivial fun hne => absurd rfl hne
  | joined hpc hended => exact hs.quiet rfl rfl rfl rfl rfl trivial fun _ _ => hended

theorem Inv.step {s t : GuiState} {c : Channel Request} {a : Act} (hs : Inv s c)
    (h : Step s a t) : ∃ es d, Run SlotChannel.Step c es d ∧ Inv t d := by
  cases a with
  | gui a => exact hs.guiStep h
  | video a =>
      obtain ⟨es, d, hrun, hd⟩ := hs.simulates.senderStep h
      obtain ⟨hrunning, hval, hwpc, -, hcmd⟩ := senderStep_frame h
      refine ⟨es, d, hrun, hd, ?_, ?_⟩
      · rw [hval, hwpc]
        rcases hcmd with hsame | ⟨-, hzero⟩
        · rw [hsame]
          exact hs.armed
        · rw [hzero]
          exact hs.armed.clear
      · rw [hwpc, hrunning]
        intro hne hzero
        -- a thread that has ended makes no step
        have hended := hs.joined hne hzero
        cases senderStep_move h with
        | _ hpc => cases hended.symm.trans hpc

theorem Inv.init : Inv GuiState.init Channel.empty where
  simulates := Simulates.init _
  armed := trivial
  joined := fun _ _ => rfl

/-- **The GUI and the video thread are a channel for one request**, over any
    interleaving of their steps. -/
theorem Inv.run {s : GuiState} {as : List Act} (h : Run Step GuiState.init as s) :
    ∃ es c, Run SlotChannel.Step Channel.empty es c ∧ Inv s c :=
  Run.simulation (fun _ _ _ _ hs hstep => hs.step hstep) Inv.init h

/-! ### Delivery

A click that passes the guard is a request; what is sent is what was stored, in order. -/

/-- The callback is at its store. -/
def GuiPc.storing : GuiPc → Bool
  | .controlsStore _ | .wbStore _ | .elStore _ => true
  | _ => false

theorem Armed.of_storing {threadCmd : Nat} {valStr : String} {wpc : GuiPc}
    (h : Armed threadCmd valStr wpc) (hstoring : wpc.storing = true) : threadCmd = 0 := by
  cases wpc with
  | controlsStore cb => exact h.1
  | wbStore cb => exact h.1
  | elStore active => exact h
  | _ => simp [GuiPc.storing] at hstoring

/-- Only a store of the GUI thread changes the mailbox from this side. -/
theorem guiStep_frame {s t : GuiState} {a : GuiAct} (h : guiStep s a = some t) :
    (t.threadCmd = s.threadCmd ∧ t.stored = s.stored) ∨ s.wpc.storing = true := by
  cases guiStep_move h with
  | controlsStored hpc | wbStored hpc | elStored hpc => exact Or.inr (by rw [hpc, GuiPc.storing])
  | _ => exact Or.inl ⟨rfl, rfl⟩

/-- Nothing is replaced or erased but what was sent. -/
theorem Inv.overwrites {s t : GuiState} {c : Channel Request} {a : Act} (hs : Inv s c)
    (hc : c.Conserved) (h : Step s a t)
    (hchange : t.threadCmd ≠ s.threadCmd ∨ t.stored ≠ s.stored) :
    s.sent = s.stored.map Request.text := by
  have hempty : c.slot = none → s.sent = s.stored.map Request.text := fun hslot => by
    rw [← hs.simulates.delivered, ← hs.simulates.accepted, hc.delivered hslot]
  have hslot := hs.simulates.slot
  cases a with
  | video a =>
      obtain ⟨-, -, -, hstored, hcmd⟩ := senderStep_frame h
      rcases hcmd with hsame | ⟨hreset, -⟩
      · exact absurd hsame (hchange.resolve_right (not_not.mpr hstored))
      · rw [hreset] at hslot
        exact hempty hslot.1
  | gui a =>
      rcases guiStep_frame h with ⟨hcmd, hstored⟩ | hstoring
      · exact absurd hchange (by simp [hcmd, hstored])
      · rw [hs.armed.of_storing hstoring] at hslot
        exact hempty hslot.empty.1

/-- **Control requests of the GUI are delivered**: in every state of every
    interleaving the texts passed to `Send` are those of the requests stored, in the
    order stored and each at most once; at most one is not sent yet, and it is in
    the mailbox; and no step changes the mailbox before what it held was sent. -/
theorem gui_requests_delivered {s : GuiState} {as : List Act}
    (h : Run Step GuiState.init as s) :
    s.sent <+: s.stored.map Request.text ∧
      (s.sent = s.stored.map Request.text ∨ ∃ front r, s.stored = front ++ [r] ∧
        s.sent = front.map Request.text ∧ InMailbox s.threadCmd s.threadCmdValStr r) ∧
      ∀ a t, Step s a t → t.threadCmd ≠ s.threadCmd ∨ t.stored ≠ s.stored →
        s.sent = s.stored.map Request.text := by
  obtain ⟨es, c, hrun, hs⟩ := Inv.run h
  have hc := Run.conserved hrun
  have hstored : s.stored = c.delivered ++ c.slot.toList := hs.simulates.accepted.symm.trans hc
  have hsent := hs.simulates.delivered
  refine ⟨?_, ?_, fun a t hstep => hs.overwrites hc hstep⟩
  · rw [← hsent, hstored, List.map_append]
    exact List.prefix_append _ _
  · have hslot := hs.simulates.slot
    cases hc : c.slot with
    | none =>
        left
        rw [hstored, hc, Option.toList_none, List.append_nil, hsent]
    | some r =>
        right
        rw [hc] at hslot hstored
        exact ⟨c.delivered, r, hstored, hsent.symm, hslot.full⟩

/-- A white-balance request is sent while a click on zoom is refused. -/
def wbClick : List Act :=
  [.gui (.start true), .video (.env true), .gui (.wbCallback 2), .gui .go, .gui .go, .gui .go,
    .gui .go, .video .go, .video .go, .video .go, .video .readVal, .video .readCmd, .video .go,
    .gui (.controlsCallback CB_CONTROL_ZOOM_IN), .gui .go, .video .go, .gui .go, .video .go]

theorem gui_requests_delivered_wb :
    ∃ s, Run Step GuiState.init wbClick s ∧ s.sent = ["CMD /v1/ctl?3=warm-fluorescent"] ∧
      s.sent <+: s.stored.map Request.text := by
  obtain ⟨s, hs, hvalues⟩ := Option.map_eq_some_iff.mp (by decide +kernel :
    (execute next GuiState.init wbClick).map (fun s => (s.sent, s.threadCmd)) =
      some (["CMD /v1/ctl?3=warm-fluorescent"], 0))
  have hrun := Run.of_execute hs
  exact ⟨s, hrun, congrArg Prod.fst hvalues, (gui_requests_delivered hrun).1⟩

end DroidCam.GuiControls
