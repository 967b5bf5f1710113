import DroidCam.Lib.Batch
import DroidCam.Loopback.Sessions
import Mathlib.Data.List.TakeWhile

/-
  DroidCam/Loopback/Controls.lean
  ===============================
  The four controls as a client sees them: QUERY_EXT_CTRL reports a range for each,
  S_EXT_CTRLS and G_EXT_CTRLS take a batch and hand its entries to `vidioc_s_ctrl` and
  `vidioc_g_ctrl` one by one.

  `error_idx` is written only when an entry is refused, so a batch answers with the
  position of that entry and the error, or with nothing.  `jiffies_to_msecs` is the
  kernel's.
-/

namespace DroidCam.Loopback

open LabelledRun

/-! ### The ioctls

The controls come one at a time through `vidioc_s_ctrl` and in batches through the
extended ioctls, which stop at the first that is refused. -/

inductive CtrlType where
  | boolean
  | integer
deriving DecidableEq, Repr

/-- `struct v4l2_query_ext_ctrl`. -/
structure QueryExtCtrl where
  type : CtrlType
  minimum : Int
  maximum : Int
  step : Int
  defaultValue : Int := 0
  nrOfDims : Nat := 0
  elems : Nat := 1
  elemSize : Nat := 4
  name : String
deriving DecidableEq, Repr

/-- `vidioc_query_ext_ctrl`; no answer is `-EINVAL`. -/
def vidiocQueryExtCtrl : ControlId → Option QueryExtCtrl
  | .keepFormat =>
    some { type := .boolean, minimum := 0, maximum := 1, step := 1, name := "keep_format" }
  | .sustainFramerate =>
    some { type := .boolean, minimum := 0, maximum := 1, step := 1, name := "sustain_framerate" }
  | .timeout =>
    some { type := .integer, minimum := 0, maximum := MAX_TIMEOUT, step := 1, name := "timeout" }
  | .timeoutImageIo =>
    some { type := .boolean, minimum := 0, maximum := 1, step := 1, name := "timeout_image_io" }
  | .other _ => none

/-- An entry of `struct v4l2_ext_settings`. -/
structure ExtControl where
  id : ControlId
  value : Int
deriving DecidableEq, Repr

variable (cfg : Config) (jiffiesToMsecs : Nat → Nat)

/-- `vidioc_g_ctrl`; no value is `-EINVAL`. -/
def vidiocGCtrl (d : Device) : ControlId → Option Int
  | .keepFormat => some (if d.keepFormat then 1 else 0)
  | .sustainFramerate => some (if d.sustainFramerate then 1 else 0)
  | .timeout => some (jiffiesToMsecs d.timeoutJiffies)
  | .timeoutImageIo => some (if d.timeoutImageIo then 1 else 0)
  | .other _ => none

/-- The `int` a call returns. -/
def Reply.ret : Reply → Int
  | .code ret => ret
  | _ => 0

/-- One turn of the loop of `vidioc_s_ext_ctrls`, with what the allocator answers. -/
def setExtCtrl (d : Device) (c : ExtControl × Allocation) : Device × Option Int :=
  let r := vidiocSCtrl cfg c.2 d c.1.id c.1.value
  (r.2, if r.1.ret = 0 then none else some r.1.ret)

def vidiocSExtCtrls (d : Device) (controls : List (ExtControl × Allocation)) :
    Device × Option (Nat × Int) :=
  Batch.run (setExtCtrl cfg) 0 d controls

/-- One turn of the loop of `vidioc_g_ext_ctrls`. -/
def getExtCtrl (d : Device) (read : List ExtControl) (c : ExtControl) :
    List ExtControl × Option Int :=
  match vidiocGCtrl jiffiesToMsecs d c.id with
  | none => (read, some (-EINVAL))
  | some value => (read ++ [{ c with value }], none)

/-- The entries behind the one that is refused keep what the caller put there. -/
def vidiocGExtCtrls (d : Device) (controls : List ExtControl) :
    List ExtControl × Option (Nat × Int) :=
  let r := Batch.run (getExtCtrl jiffiesToMsecs d) 0 [] controls
  (r.1 ++ controls.drop r.1.length, r.2)

/-! ### What is in range -/

/-- The driver reports a range for the control, and the value is in it. -/
def ExtControl.InRange (c : ExtControl) : Bool :=
  match vidiocQueryExtCtrl c.id with
  | none => false
  | some q => q.minimum ≤ c.value ∧ c.value ≤ q.maximum

/-- The driver has a control of this number. -/
def ControlId.Known (id : ControlId) : Bool := (vidiocQueryExtCtrl id).isSome

/-- What `vidioc_s_ctrl` makes of a value in range. -/
def Device.store (d : Device) (c : ExtControl × Allocation) : Device :=
  (vidiocSCtrl cfg c.2 d c.1.id c.1.value).2

/-- A value in range is taken, whatever the allocator answers. -/
theorem vidiocSCtrl_taken {c : ExtControl} (h : c.InRange = true) (mem : Allocation) (d : Device) :
    (vidiocSCtrl cfg mem d c.id c.value).1 = .code 0 := by
  obtain ⟨id, value⟩ := c
  cases id with
  | other n => cases h
  | timeout =>
      have hrange : 0 ≤ value ∧ value ≤ MAX_TIMEOUT := of_decide_eq_true h
      simp only [vidiocSCtrl, if_neg (show ¬ (value < 0 ∨ value > MAX_TIMEOUT) by omega)]
  | keepFormat | sustainFramerate | timeoutImageIo =>
      have hrange : 0 ≤ value ∧ value ≤ 1 := of_decide_eq_true h
      simp only [vidiocSCtrl, if_neg (show ¬ (value < 0 ∨ value > 1) by omega)]

/-- Any other is refused, and the device is as it was. -/
theorem vidiocSCtrl_refused {c : ExtControl} (h : c.InRange = false) (mem : Allocation)
    (d : Device) : vidiocSCtrl cfg mem d c.id c.value = (.code (-EINVAL), d) := by
  obtain ⟨id, value⟩ := c
  cases id with
  | other n => rfl
  | timeout =>
      have hrange : ¬ (0 ≤ value ∧ value ≤ MAX_TIMEOUT) := of_decide_eq_false h
      simp only [vidiocSCtrl, if_pos (show value < 0 ∨ value > MAX_TIMEOUT by omega)]
  | keepFormat | sustainFramerate | timeoutImageIo =>
      have hrange : ¬ (0 ≤ value ∧ value ≤ 1) := of_decide_eq_false h
      simp only [vidiocSCtrl, if_pos (show value < 0 ∨ value > 1 by omega)]

theorem setExtCtrl_gated :
    Batch.Gated (setExtCtrl cfg) (fun c => c.1.InRange) (Device.store cfg) (-EINVAL) where
  served d c h := by
    simp [setExtCtrl, Device.store, vidiocSCtrl_taken cfg h, Reply.ret]
  refused d c h := by
    simp [setExtCtrl, vidiocSCtrl_refused cfg h, Reply.ret]

theorem getExtCtrl_gated (d : Device) :
    Batch.Gated (getExtCtrl jiffiesToMsecs d) (fun c => c.id.Known)
      (fun read c => read ++ [{ c with value := (vidiocGCtrl jiffiesToMsecs d c.id).getD 0 }])
      (-EINVAL) where
  served read c h := by
    obtain ⟨id, value⟩ := c
    cases id with
    | other n => cases h
    | _ => rfl
  refused read c h := by
    obtain ⟨id, value⟩ := c
    cases id with
    | other n => rfl
    | _ => cases h

/-! ### What a batch leaves

The handle that makes the call keeps `try_free_buffers` from running, so a batch leaves
the frames alone. -/

/-- What the controls have nothing to do with: format and interval, the frames and who has
    the device open. -/
def Device.stream (d : Device) :=
  (d.pixFormat, d.timeperframe, d.frameJiffies, d.image, d.imagesize, d.buffers, d.ring,
    d.maxOpeners, d.writePosition, d.bufferSize, d.rereadCount, d.timeoutImageBuffer,
    d.timeoutHappened, d.openCount, d.readyForCapture, d.framesWritten)

/-- What `vidioc_g_ctrl` shows of a value that was stored. -/
def ExtControl.shown (c : ExtControl) : Int :=
  match c.id with
  | .timeout => jiffiesToMsecs (cfg.msecsToJiffies c.value.toNat)
  | _ => c.value

variable {cfg jiffiesToMsecs}

theorem Device.checkTimers_stream (d : Device) : d.checkTimers.stream = d.stream := by
  unfold checkTimers
  split <;> rfl

theorem Device.allocateTimeoutImage_stream (mem : Allocation) (d : Device) :
    (d.allocateTimeoutImage mem).2.stream = d.stream := by
  unfold allocateTimeoutImage
  split_ifs <;> rfl

/-- While somebody has the device open, a control that is set disturbs no stream. -/
theorem Device.store_stream {d : Device} (hopen : d.openCount ≠ 0) (c : ExtControl × Allocation) :
    (d.store cfg c).stream = d.stream := by
  obtain ⟨⟨id, value⟩, mem⟩ := c
  show (vidiocSCtrl cfg mem d id value).2.stream = d.stream
  have hmove := vidiocSCtrl_move cfg mem d id value
  generalize (vidiocSCtrl cfg mem d id value).2 = d' at hmove ⊢
  cases hmove with
  | refused => rfl
  | keepFormat =>
      rw [Device.tryFreeBuffers, if_neg (fun h => hopen h.1)]
      rfl
  | sustainFramerate => exact Device.checkTimers_stream _
  | timeout hrange =>
      rw [Device.allocateTimeoutImage_stream, setTimeout, Device.checkTimers_stream]
      rfl
  | timeoutImageIo => rfl

/-! ### Reading back

Each control writes a field that only its own read looks at. -/

/-- The fields that `vidioc_g_ctrl` reads. -/
def Device.settings (d : Device) :=
  (d.keepFormat, d.sustainFramerate, d.timeoutJiffies, d.timeoutImageIo)

theorem vidiocGCtrl_congr {d d' : Device} (h : d'.settings = d.settings) :
    vidiocGCtrl jiffiesToMsecs d' = vidiocGCtrl jiffiesToMsecs d := by
  simp only [Device.settings, Prod.mk.injEq] at h
  obtain ⟨hkeep, hsustain, htimeout, hio⟩ := h
  funext id
  cases id <;> simp [vidiocGCtrl, hkeep, hsustain, htimeout, hio]

theorem Device.checkTimers_settings (d : Device) : d.checkTimers.settings = d.settings := by
  unfold checkTimers
  split <;> rfl

theorem Device.tryFreeBuffers_settings (d : Device) : d.tryFreeBuffers.settings = d.settings := by
  unfold tryFreeBuffers
  split <;> rfl

theorem Device.allocateTimeoutImage_settings (mem : Allocation) (d : Device) :
    (d.allocateTimeoutImage mem).2.settings = d.settings := by
  unfold allocateTimeoutImage
  split_ifs <;> rfl

/-- A boolean control reads back as the 0 or 1 that was set. -/
theorem boolean_shown {value : Int} (h : 0 ≤ value ∧ value ≤ 1) :
    (if decide (value ≠ 0) then 1 else 0 : Int) = value := by
  obtain rfl | rfl : value = 0 ∨ value = 1 := by omega
  · rfl
  · rfl

/-- **A control reads back as it was set**, and no other control changes. -/
theorem vidiocGCtrl_store {c : ExtControl × Allocation} (h : c.1.InRange = true) (d : Device)
    (id : ControlId) :
    vidiocGCtrl jiffiesToMsecs (d.store cfg c) id =
      if c.1.id = id then some (c.1.shown cfg jiffiesToMsecs)
      else vidiocGCtrl jiffiesToMsecs d id := by
  obtain ⟨⟨cid, value⟩, mem⟩ := c
  show vidiocGCtrl jiffiesToMsecs (vidiocSCtrl cfg mem d cid value).2 id = _
  cases cid with
  | other n => cases h
  -- out of range was refused before, so the branch of the error is not taken
  | keepFormat =>
      have hrange : 0 ≤ value ∧ value ≤ 1 := of_decide_eq_true h
      simp only [vidiocSCtrl, if_neg (show ¬ (value < 0 ∨ value > 1) by omega)]
      rw [vidiocGCtrl_congr (Device.tryFreeBuffers_settings _)]
      cases id with
      | keepFormat => exact congrArg some (boolean_shown hrange)
      | _ => rfl
  | sustainFramerate =>
      have hrange : 0 ≤ value ∧ value ≤ 1 := of_decide_eq_true h
      simp only [vidiocSCtrl, if_neg (show ¬ (value < 0 ∨ value > 1) by omega)]
      rw [vidiocGCtrl_congr (Device.checkTimers_settings _)]
      cases id with
      | sustainFramerate => exact congrArg some (boolean_shown hrange)
      | _ => rfl
  | timeout =>
      have hrange : 0 ≤ value ∧ value ≤ MAX_TIMEOUT := of_decide_eq_true h
      simp only [vidiocSCtrl, if_neg (show ¬ (value < 0 ∨ value > MAX_TIMEOUT) by omega)]
      rw [vidiocGCtrl_congr ((Device.allocateTimeoutImage_settings mem _).trans
        (Device.checkTimers_settings _))]
      cases id <;> rfl
  | timeoutImageIo =>
      have hrange : 0 ≤ value ∧ value ≤ 1 := of_decide_eq_true h
      simp only [vidiocSCtrl, if_neg (show ¬ (value < 0 ∨ value > 1) by omega)]
      cases id with
      | timeoutImageIo => exact congrArg some (boolean_shown hrange)
      | _ => rfl

/-- What a batch of reads returns: a value for each control up to the first unknown one. -/
theorem vidiocGExtCtrls_eq (d : Device) (asked : List ExtControl) :
    vidiocGExtCtrls jiffiesToMsecs d asked =
      ((asked.takeWhile fun c => c.id.Known).map
          (fun c => { c with value := (vidiocGCtrl jiffiesToMsecs d c.id).getD 0 }) ++
        asked.dropWhile fun c => c.id.Known,
       (asked.findIdx? fun c => !c.id.Known).map fun k => (k, -EINVAL)) := by
  have hfold : ∀ (cs : List ExtControl) (g : ExtControl → ExtControl),
      cs.foldl (fun read c => read ++ [g c]) [] = cs.map g := fun cs g => by
    rw [List.foldl_append_eq_append, List.nil_append, ← List.flatMap_def, List.map_eq_flatMap]
  have hdrop := congrArg (List.drop (asked.takeWhile fun c => c.id.Known).length)
    (List.takeWhile_append_dropWhile (p := fun c : ExtControl => c.id.Known) (l := asked))
  rw [List.drop_left] at hdrop
  simp only [vidiocGExtCtrls, (getExtCtrl_gated jiffiesToMsecs d).run_eq]
  rw [hfold, List.length_map, hdrop]

/-! ### On the driver -/

/-- The call that sets one control of a batch. -/
def ctrlCall (file : Nat) (c : ExtControl × Allocation) : Call :=
  .request file (.sCtrl c.1.id c.1.value c.2)

/-- **A batch is a run**: what is proved of every run of the driver holds behind it. -/
theorem store_run {s : Driver} {file : Nat} {o : Opener} (hfile : s.openers.lookup file = some o)
    (controls : List (ExtControl × Allocation)) :
    ∃ t, Run (Step cfg) s (controls.map (ctrlCall file)) t ∧
      t.dev = controls.foldl (Device.store cfg) s.dev ∧
      ∀ f, t.openers.lookup f = s.openers.lookup f := by
  induction controls generalizing s with
  | nil => exact ⟨s, .nil s, rfl, fun _ => rfl⟩
  | cons c controls ih =>
      have hstep : Step cfg s (ctrlCall file c) (s.afterRequest file (s.dev.store cfg c) o) := by
        have hreq : request cfg s.dev o (.sCtrl c.1.id c.1.value c.2) =
            .ok ((vidiocSCtrl cfg c.2 s.dev c.1.id c.1.value).1, s.dev.store cfg c, o) := rfl
        have hcall := driverStep_of_request hfile hreq
        simp only [ofNext, next, ctrlCall, hcall]
      have hsame : ∀ f, (s.afterRequest file (s.dev.store cfg c) o).openers.lookup f =
          s.openers.lookup f := by
        intro f
        by_cases hf : f = file
        · rw [hf, hfile]
          exact AList.lookup_insert s.openers
        · exact AList.lookup_insert_ne hf
      obtain ⟨t, hrun, hdev, hopeners⟩ := ih ((hsame file).trans hfile)
      exact ⟨t, (Run.single hstep).append hrun, hdev, fun f => (hopeners f).trans (hsame f)⟩

/-- **What a batch of controls does.**  The entries before the first that is not in the
    range QUERY_EXT_CTRL reports are applied and no other; that one is named in
    `error_idx`.  Each control then reads back as the last entry applied for it, the
    timeout in whole ticks, and as before where there is none.  The stream stays as it
    was, and the batch is a run of single calls. -/
theorem ext_ctrls_stored (jiffiesToMsecs : Nat → Nat) {calls : List Call} {s : Driver}
    (hrun : Run (Step cfg) (Driver.init cfg) calls s) {file : Nat} {o : Opener}
    (hfile : s.openers.lookup file = some o) (controls : List (ExtControl × Allocation)) :
    let taken := controls.takeWhile fun c => c.1.InRange
    let r := vidiocSExtCtrls cfg s.dev controls
    r.2 = (controls.findIdx? fun c => !c.1.InRange).map (fun k => (k, -EINVAL)) ∧
      (∀ id, vidiocGCtrl jiffiesToMsecs r.1 id =
        (taken.reverse.find? fun c => c.1.id = id).elim (vidiocGCtrl jiffiesToMsecs s.dev id)
          fun c => some (c.1.shown cfg jiffiesToMsecs)) ∧
      (∀ asked : List ExtControl, vidiocGExtCtrls jiffiesToMsecs r.1 asked =
        ((asked.takeWhile fun c => c.id.Known).map
            (fun c => { c with value := (vidiocGCtrl jiffiesToMsecs r.1 c.id).getD 0 }) ++
          asked.dropWhile fun c => c.id.Known,
         (asked.findIdx? fun c => !c.id.Known).map fun k => (k, -EINVAL))) ∧
      r.1.stream = s.dev.stream ∧
      ∃ t, Run (Step cfg) s (taken.map (ctrlCall file)) t ∧ t.dev = r.1 ∧
        ∀ f, t.openers.lookup f = s.openers.lookup f := by
  intro taken r
  have hr : r = _ := (setExtCtrl_gated cfg).run_eq
  have hdev : r.1 = taken.foldl (Device.store cfg) s.dev := congrArg Prod.fst hr
  have hin : ∀ c ∈ taken, c.1.InRange = true := fun c hc => by simpa using List.mem_takeWhile_imp hc
  refine ⟨congrArg Prod.snd hr, fun id => ?_, fun asked => vidiocGExtCtrls_eq r.1 asked, ?_, ?_⟩
  · have hlast : vidiocGCtrl jiffiesToMsecs (taken.foldl (Device.store cfg) s.dev) id = _ :=
      Batch.foldl_last fun d c hc => vidiocGCtrl_store (hin c hc) d id
    rw [hdev, hlast]
    cases taken.reverse.find? fun c => c.1.id = id <;> rfl
  · -- the handle keeps the buffers from being freed, at every entry of the batch
    have hopen := ((Accounted.run hrun).held hfile).2
    rw [hdev]
    refine (List.foldlRecOn taken (Device.store cfg)
      (motive := fun d => d.stream = s.dev.stream) rfl ?_)
    intro d hd c _
    have hcount : d.openCount = s.dev.openCount := by
      simp only [Device.stream, Prod.mk.injEq] at hd
      tauto
    rw [Device.store_stream (by rwa [hcount]), hd]
  · obtain ⟨t, ht, htdev, hopeners⟩ := store_run hfile taken
    exact ⟨t, ht, htdev.trans hdev.symm, hopeners⟩

/-- Five entries, of which the fourth is out of range. -/
def mixedBatch : List (ExtControl × Allocation) :=
  [(⟨.timeout, 1000⟩, granting), (⟨.sustainFramerate, 1⟩, granting), (⟨.timeout, 25⟩, granting),
    (⟨.keepFormat, 2⟩, granting), (⟨.timeoutImageIo, 1⟩, granting)]

/-- The batch on a device that was just opened, with 100 ticks in a second. -/
theorem ext_ctrls_stored_stopped :
    ∃ s : Driver, (vidiocSExtCtrls ⟨640, 480, 100⟩ s.dev mixedBatch).2 = some (3, -EINVAL) ∧
      vidiocGExtCtrls (· * 10) (vidiocSExtCtrls ⟨640, 480, 100⟩ s.dev mixedBatch).1
          [⟨.timeout, 0⟩, ⟨.sustainFramerate, 0⟩, ⟨.timeoutImageIo, 7⟩] =
        ([⟨.timeout, 30⟩, ⟨.sustainFramerate, 1⟩, ⟨.timeoutImageIo, 0⟩], none) := by
  obtain ⟨s, hs, hvalues⟩ := Option.map_eq_some_iff.mp (by decide +kernel :
    (execute (next ⟨640, 480, 100⟩) (Driver.init ⟨640, 480, 100⟩)
        [.openDevice 1 granting true]).map
      (fun s => (s.openers.lookup 1, s.dev.timeoutImageIo)) = some (some {}, false))
  simp only [Prod.mk.injEq] at hvalues
  obtain ⟨hfile, hio⟩ := hvalues
  obtain ⟨herror, hstored, hread, -, -⟩ :=
    ext_ctrls_stored (· * 10) (Run.of_execute hs) hfile mixedBatch
  refine ⟨s, herror, ?_⟩
  have htimeout := hstored .timeout
  have hsustain := hstored .sustainFramerate
  have himageIo := hstored .timeoutImageIo
  have hbefore : vidiocGCtrl (· * 10) s.dev .timeoutImageIo = some 0 := by
    simp [vidiocGCtrl, hio]
  rw [hread]
  generalize vidiocSExtCtrls ⟨640, 480, 100⟩ s.dev mixedBatch = r at *
  have h₁ : vidiocGCtrl (· * 10) r.1 .timeout = some 30 := htimeout
  have h₂ : vidiocGCtrl (· * 10) r.1 .sustainFramerate = some 1 := hsustain
  have h₃ : vidiocGCtrl (· * 10) r.1 .timeoutImageIo = some 0 := himageIo.trans hbefore
  simp [ControlId.Known, vidiocQueryExtCtrl, h₁, h₂, h₃]

end DroidCam.Loopback
