import DroidCam.Loopback.OpenCount

/-
  DroidCam/Loopback/Lifecycle.lean
  ================================
  Loading and unloading the module: what `v4l2loopback_init_module` acquires, what
  `free_devices` releases, and the driver in between.

  `DEVICES` is 1, so the arrays and loops over devices have one element.  An object is
  live from its allocation or registration to its release; a pointer to it is followed
  only while it is live.  `free_devices` is also what a load that fails calls, and it
  reads `vdev` whatever the failed step has left there.

  The kernel's part is its documented one: the last reference of a registered video
  device goes with `video_unregister_device`, which calls `release`; the kernel does not
  unload a module whose device somebody has open.
-/

namespace DroidCam.Loopback.Lifecycle

open LabelledRun

/-! ### Objects

What the module acquires and has to give back.  A stray is what a device leaves behind:
memory and timers that nobody can reach any more. -/

inductive Attribute where
  | format
  | buffers
  | maxOpeners
deriving DecidableEq, Repr

def attributes : List Attribute := [.format, .buffers, .maxOpeners]

/-- What the module allocates or registers. -/
inductive Object where
  /-- `*devs[0]`. -/
  | device
  /-- The registered `devs[0]->v4l2_dev`. -/
  | v4l2Dev
  /-- `*devs[0]->vdev`. -/
  | vdev
  /-- The `struct v4l2loopback_private` of `vdev`. -/
  | drvdata
  /-- `/dev/video*`. -/
  | node
  | attribute (a : Attribute)
deriving DecidableEq, Repr

/-- What outlives the device it belongs to. -/
inductive Stray where
  | image
  | timeoutImage
  | sustainTimer
  | timeoutTimer
deriving DecidableEq, Repr

/-- `*devs[0]`: whether `vdev` is set, and the device as the driver uses it. -/
structure LoopbackDevice where
  vdev : Bool
  driver : Driver

structure Kernel where
  live : List Object := []
  devs : Option LoopbackDevice := none
  strays : List Stray := []

inductive MemoryFault where
  /-- `devs[0]->vdev` is followed and is `NULL`. -/
  | nullVdev
  /-- The object is used or released after its release. -/
  | released (o : Object)
deriving DecidableEq, Repr

namespace Kernel

def acquire (k : Kernel) (o : Object) : Kernel := { k with live := o :: k.live }

def drop (k : Kernel) (o : Object) : Kernel := { k with live := k.live.erase o }

def release (k : Kernel) (o : Object) : Except MemoryFault Kernel :=
  if o ∈ k.live then .ok (k.drop o) else .error (.released o)

/-- Follow `devs[0]->vdev`. -/
def followVdev (k : Kernel) (dev : LoopbackDevice) : Except MemoryFault Unit :=
  if dev.vdev = false then .error .nullVdev
  else if Object.vdev ∈ k.live then .ok () else .error (.released .vdev)

def setDevs (k : Kernel) (dev : LoopbackDevice) : Kernel := { k with devs := some dev }

end Kernel

/-- What is still there of a device that is freed. -/
def straysOf (d : Device) : List Stray :=
  (if d.image.isSome then [.image] else []) ++
    (if d.timeoutImage.isSome then [.timeoutImage] else []) ++
    (if d.sustainTimer.isSome then [.sustainTimer] else []) ++
    (if d.timeoutTimer.isSome then [.timeoutTimer] else [])

/-! ### Unloading

In the order of the source, with an access to the device where the source follows a
pointer. -/

/-- `v4l2loopback_remove_sysfs`; to remove a file that is not there does nothing. -/
def removeSysfs (k : Kernel) (dev : LoopbackDevice) : Except MemoryFault Kernel :=
  if dev.vdev = false then .ok k
  else do
    k.followVdev dev
    .ok (attributes.foldl (fun k a => k.drop (.attribute a)) k)

/-- `video_unregister_device`; one that is not registered is left as it is. -/
def videoUnregisterDevice (k : Kernel) : Kernel :=
  if Object.node ∈ k.live then (k.drop .node).drop .vdev else k

/-- `free_devices`. -/
def freeDevices (k : Kernel) : Except MemoryFault Kernel :=
  match k.devs with
  | none => .ok k
  | some dev => do
    let d := dev.driver.dev.freeBuffers
    let k ← removeSysfs k dev
    k.followVdev dev
    let k ← k.release .drvdata
    k.followVdev dev
    let k := (videoUnregisterDevice k).drop .v4l2Dev
    let k ← k.release .device
    .ok { k with devs := none, strays := k.strays ++ straysOf d }

/-! ### Loading

A load that fails half way runs the same clean-up as an unload, on a device that is not
complete. -/

/-- What the allocators and the kernel answer during one load. -/
structure Answers where
  kzallocDevice : Bool := true
  v4l2DeviceRegister : Int := 0
  videoDeviceAlloc : Bool := true
  kzallocPrivate : Bool := true
  videoRegisterDevice : Int := 0
  createFile : Attribute → Bool := fun _ => true

variable (cfg : Config)

/-- `v4l2_loopback_init` of the device that was just allocated. -/
def v4l2LoopbackInit (a : Answers) (k : Kernel) : Int × Kernel :=
  if a.v4l2DeviceRegister ≠ 0 then (a.v4l2DeviceRegister, k)
  else
    let k := k.acquire .v4l2Dev
    if a.videoDeviceAlloc = false then (-ENOMEM, k.drop .v4l2Dev)
    else
      let k := (k.acquire .vdev).setDevs ⟨true, Driver.init cfg⟩
      if a.kzallocPrivate = false then (-ENOMEM, (k.drop .v4l2Dev).drop .vdev)
      else (0, k.acquire .drvdata)

/-- The loop of `v4l2loopback_create_sysfs`: the first failure ends it. -/
def createSysfs (a : Answers) : List Attribute → Kernel → Kernel
  | [], k => k
  | attr :: attrs, k =>
    if a.createFile attr then createSysfs a attrs (k.acquire (.attribute attr)) else k

/-- `v4l2loopback_init_module`. -/
def initModule (a : Answers) (k : Kernel) : Except MemoryFault (Int × Kernel) :=
  -- `zero_devices`
  let k := { k with devs := none }
  if a.kzallocDevice = false then do
    let k ← freeDevices k
    .ok (-ENOMEM, k)
  else
    let (ret, k) := v4l2LoopbackInit cfg a ((k.acquire .device).setDevs ⟨false, Driver.init cfg⟩)
    if ret < 0 then do
      let k ← freeDevices k
      .ok (ret, k)
    else
      match k.devs with
      | none => .ok (0, k)
      | some dev => do
        k.followVdev dev
        if a.videoRegisterDevice < 0 then
          let k ← k.release .vdev
          let k ← freeDevices k
          .ok (-EFAULT, k)
        else .ok (0, createSysfs a attributes (k.acquire .node))

/-! ### Runs -/

inductive Event where
  | load (a : Answers)
  | call (c : Call)
  | unload

inductive Halt where
  | disabled
  | fault (f : MemoryFault)
deriving DecidableEq, Repr

/-- One event.  Calls are for a module that is loaded; it is unloaded when nobody has the
    device open. -/
def moduleStep (k : Kernel) : Event → Except Halt Kernel
  | .load a =>
    match k.devs with
    | some _ => .error .disabled
    | none =>
      match initModule cfg a k with
      | .error f => .error (.fault f)
      | .ok (_, k) => .ok k
  | .call c =>
    match k.devs with
    | none => .error .disabled
    | some dev =>
      match next cfg dev.driver c with
      | none => .error .disabled
      | some driver => .ok (k.setDevs { dev with driver })
  | .unload =>
    match k.devs with
    | none => .error .disabled
    | some dev =>
      if dev.driver.openers.keys = [] then
        match freeDevices k with
        | .error f => .error (.fault f)
        | .ok k => .ok k
      else .error .disabled

def moduleNext (k : Kernel) (e : Event) : Option Kernel := (moduleStep cfg k e).toOption

abbrev ModuleStep : Kernel → Event → Kernel → Prop := ofNext (moduleNext cfg)

/-! ### What loading and unloading come to -/

/-- Every step of the load succeeds; attribute files that are not created do not count. -/
structure Answers.Whole (a : Answers) : Prop where
  v4l2DeviceRegister : a.v4l2DeviceRegister = 0
  videoDeviceAlloc : a.videoDeviceAlloc = true
  kzallocPrivate : a.kzallocPrivate = true
  videoRegisterDevice : 0 ≤ a.videoRegisterDevice

/-- What a load that succeeds has acquired. -/
def Answers.objects (a : Answers) : List Object :=
  (createSysfs a attributes { live := [.node, .drvdata, .vdev, .v4l2Dev, .device] }).live

theorem createSysfs_eq (a : Answers) (attrs : List Attribute) (k : Kernel) :
    createSysfs a attrs k = { k with live := (createSysfs a attrs { live := k.live }).live } := by
  induction attrs generalizing k with
  | nil => rfl
  | cons attr attrs ih =>
      simp only [createSysfs]
      split
      · rw [ih, ih (Kernel.acquire { live := k.live } (.attribute attr))]
        rfl
      · rfl

variable {cfg} {a : Answers} {k t : Kernel} {e : Event}

/-- A load that gets the memory of the device. -/
theorem initModule_whole (hlive : k.live = []) (ha : a.kzallocDevice = true) (hwhole : a.Whole) :
    initModule cfg a k =
      .ok (0, { k with live := a.objects, devs := some ⟨true, Driver.init cfg⟩ }) := by
  obtain ⟨hregister, halloc, hprivate, hnode⟩ := hwhole
  simp only [initModule, ha, v4l2LoopbackInit, hregister, halloc, hprivate, hlive, Kernel.acquire,
    Kernel.setDevs, Kernel.followVdev, ne_eq, not_true_eq_false, if_false, Bool.true_eq_false,
    Int.lt_irrefl, Int.not_lt.mpr hnode]
  rw [createSysfs_eq]
  rfl

/-- Without it nothing is acquired. -/
theorem initModule_nomem (ha : a.kzallocDevice = false) :
    initModule cfg a k = .ok (-ENOMEM, { k with devs := none }) := by
  simp only [initModule, ha, if_true]
  rfl

/-- **Any other failure of a load is a fault**: `free_devices` follows a `vdev` that is
    not set, or one that is released. -/
theorem initModule_fault (hlive : k.live = []) (ha : a.kzallocDevice = true)
    (hfails : ¬ a.Whole) :
    initModule cfg a k = .error
      (if a.v4l2DeviceRegister ≠ 0 ∨ a.videoDeviceAlloc = false then .nullVdev
        else .released .vdev) := by
  obtain ⟨live, devs, strays⟩ := k
  obtain rfl : live = [] := hlive
  by_cases hregister : a.v4l2DeviceRegister = 0
  · cases halloc : a.videoDeviceAlloc with
    | false =>
        simp only [initModule, ha, v4l2LoopbackInit, hregister, halloc]
        rfl
    | true =>
        cases hprivate : a.kzallocPrivate with
        | false =>
            simp only [initModule, ha, v4l2LoopbackInit, hregister, halloc, hprivate]
            rfl
        | true =>
            have hnode : a.videoRegisterDevice < 0 := by
              by_contra hnode
              exact hfails ⟨hregister, halloc, hprivate, Int.not_lt.mp hnode⟩
            simp only [initModule, ha, v4l2LoopbackInit, hregister, halloc, hprivate, hnode]
            rfl
  · simp only [initModule, ha, v4l2LoopbackInit, if_pos hregister, if_pos (Or.inl hregister),
      Bool.true_eq_false, if_false]
    split
    · rfl
    · rfl

/-- The files there are, in the order they were created. -/
theorem Answers.objects_cases (a : Answers) :
    ∃ attrs, a.objects = attrs.map Object.attribute ++ [.node, .drvdata, .vdev, .v4l2Dev, .device] ∧
      (attrs = [] ∨ attrs = [.format] ∨ attrs = [.buffers, .format] ∨
        attrs = [.maxOpeners, .buffers, .format]) := by
  simp only [Answers.objects, attributes, createSysfs]
  split_ifs
  · exact ⟨[.maxOpeners, .buffers, .format], rfl, by simp⟩
  · exact ⟨[.buffers, .format], rfl, by simp⟩
  · exact ⟨[.format], rfl, by simp⟩
  · exact ⟨[], rfl, by simp⟩

/-- **`free_devices` of a module that is loaded releases all it has.** -/
theorem freeDevices_loaded {driver : Driver} (hdevs : k.devs = some ⟨true, driver⟩)
    (hlive : k.live = a.objects) :
    freeDevices k =
      .ok { live := [], devs := none,
            strays := k.strays ++ straysOf driver.dev.freeBuffers } := by
  obtain ⟨live, devs, strays⟩ := k
  obtain ⟨attrs, hobjects, hattrs⟩ := a.objects_cases
  obtain rfl : devs = some ⟨true, driver⟩ := hdevs
  obtain rfl : live = _ := hlive.trans hobjects
  rcases hattrs with rfl | rfl | rfl | rfl <;> rfl

/-! ### Safe events

A load is safe when it succeeds or gets no memory at all, an unload when no timer of the
device is pending. -/

/-- The event makes no use of what is released; it leaves nothing behind of a device that
    is gone, and nothing acquired when there is no device. -/
structure Safe (cfg : Config) (k : Kernel) (e : Event) : Prop where
  noFault : ∀ f, moduleStep cfg k e ≠ .error (.fault f)
  clean : ∀ t, moduleStep cfg k e = .ok t → t.strays = [] ∧ (t.devs = none → t.live = [])

/-- A load that gets the memory of the device succeeds, and a module that is unloaded has
    no timer pending. -/
def Orderly (k : Kernel) : Event → Prop
  | .load a => k.devs = none → a.kzallocDevice = true → a.Whole
  | .call _ => True
  | .unload => ∀ dev, k.devs = some dev → dev.driver.openers.keys = [] →
      dev.driver.dev.sustainTimer = none ∧ dev.driver.dev.timeoutTimer = none

/-- Between events, there is either all that a load acquires or nothing. -/
structure Settled (k : Kernel) : Prop where
  strays : k.strays = []
  absent : k.devs = none → k.live = []
  loaded : ∀ dev, k.devs = some dev → dev.vdev = true ∧ ∃ a : Answers, k.live = a.objects

theorem Settled.init : Settled {} := ⟨rfl, fun _ => rfl, fun _ h => (by cases h)⟩

/-- Only pending timers are left of a device whose buffers are freed. -/
theorem straysOf_freeBuffers (d : Device) :
    straysOf d.freeBuffers = [] ↔ d.sustainTimer = none ∧ d.timeoutTimer = none := by
  have hsustain : d.freeBuffers.sustainTimer = d.sustainTimer := rfl
  have htimeout : d.freeBuffers.timeoutTimer = d.timeoutTimer := rfl
  have himage : d.freeBuffers.image.isSome = false := rfl
  have hsecond : d.freeBuffers.timeoutImage.isSome = false := rfl
  simp [straysOf, hsustain, htimeout, himage, hsecond]

theorem moduleStep_load (hdevs : k.devs = none) :
    moduleStep cfg k (.load a) = match initModule cfg a k with
      | .error f => .error (.fault f)
      | .ok (_, k) => .ok k := by
  simp only [moduleStep, hdevs]

/-- The unloading of a module that nobody uses. -/
theorem moduleStep_unload (hk : Settled k) {dev : LoopbackDevice} (hdevs : k.devs = some dev)
    (hopeners : dev.driver.openers.keys = []) :
    moduleStep cfg k .unload =
      .ok { live := [], devs := none, strays := straysOf dev.driver.dev.freeBuffers } := by
  obtain ⟨hvdev, a, hlive⟩ := hk.loaded dev hdevs
  obtain ⟨vdev, driver⟩ := dev
  obtain rfl : vdev = true := hvdev
  simp only [moduleStep, hdevs, if_pos hopeners, freeDevices_loaded hdevs hlive, hk.strays,
    List.nil_append]

/-- An orderly event is not for this module now, or leaves a settled state. -/
theorem Settled.orderly (hk : Settled k) (he : Orderly k e) :
    moduleStep cfg k e = .error .disabled ∨ ∃ t, moduleStep cfg k e = .ok t ∧ Settled t := by
  cases e with
  | load a =>
      cases hdevs : k.devs with
      | some dev => exact Or.inl (by simp only [moduleStep, hdevs])
      | none =>
          refine Or.inr ?_
          rw [moduleStep_load hdevs]
          cases ha : a.kzallocDevice with
          | false =>
              rw [initModule_nomem ha]
              exact ⟨_, rfl, hk.strays, fun _ => hk.absent hdevs, fun _ h => (by cases h)⟩
          | true =>
              -- every allocation holds: the objects are those of a whole device
              rw [initModule_whole (hk.absent hdevs) ha (he hdevs ha)]
              refine ⟨_, rfl, hk.strays, fun h => (by cases h), fun dev hdev => ?_⟩
              cases hdev
              exact ⟨rfl, a, rfl⟩
  | call c =>
      simp only [moduleStep]
      split
      · exact Or.inl rfl
      · rename_i dev hdevs
        split
        · exact Or.inl rfl
        · refine Or.inr ⟨_, rfl, hk.strays, fun h => (by cases h), fun dev' hdev => ?_⟩
          cases hdev
          exact hk.loaded dev hdevs
  | unload =>
      cases hdevs : k.devs with
      | none => exact Or.inl (by simp only [moduleStep, hdevs])
      | some dev =>
          by_cases hopeners : dev.driver.openers.keys = []
          · refine Or.inr ⟨_, moduleStep_unload hk hdevs hopeners, ?_, fun _ => rfl,
              fun _ h => (by cases h)⟩
            exact (straysOf_freeBuffers _).mpr (he dev hdevs hopeners)
          · exact Or.inl (by simp only [moduleStep, hdevs, if_neg hopeners])

/-- **In a settled state the safe events are the orderly ones.** -/
theorem Settled.safe_iff (hk : Settled k) : Safe cfg k e ↔ Orderly k e := by
  constructor
  · intro hsafe
    cases e with
    | load a =>
        intro hdevs ha
        by_contra hfails
        apply hsafe.noFault
        rw [moduleStep_load hdevs, initModule_fault (hk.absent hdevs) ha hfails]
    | call c => trivial
    | unload =>
        intro dev hdevs hopeners
        have hclean := (hsafe.clean _ (moduleStep_unload hk hdevs hopeners)).1
        exact (straysOf_freeBuffers _).mp hclean
  · intro he
    rcases hk.orderly he with hdisabled | ⟨t, ht, hsettled⟩
    · exact ⟨fun f hf => (by rw [hdisabled] at hf; cases hf),
        fun t ht => (by rw [hdisabled] at ht; cases ht)⟩
    · refine ⟨fun f hf => (by rw [ht] at hf; cases hf), fun u hu => ?_⟩
      rw [ht] at hu
      cases hu
      exact ⟨hsettled.strays, hsettled.absent⟩

theorem moduleStep_of_step (h : ModuleStep cfg k e t) : moduleStep cfg k e = .ok t :=
  toOption_eq_some.mp h

theorem Settled.step (hk : Settled k) (he : Orderly k e) (h : ModuleStep cfg k e t) :
    Settled t := by
  have hstep := moduleStep_of_step h
  have hevent : moduleStep cfg k e = .error .disabled ∨
      ∃ u, moduleStep cfg k e = .ok u ∧ Settled u := hk.orderly he
  rcases hevent with hdisabled | ⟨u, hu, hsettled⟩
  · rw [hdisabled] at hstep
    cases hstep
  · rw [hu] at hstep
    cases hstep
    exact hsettled

/-- **When a module is loaded and unloaded cleanly.**  Along any sequence of loads, calls
    and unloads nothing is used after its release and nothing is left behind, exactly
    when every load that gets the memory of the device succeeds as a whole and no unload
    finds a timer pending. -/
theorem module_safe_iff (cfg : Config) (events : List Event) :
    Along (ModuleStep cfg) (Safe cfg) {} events ↔
      Along (ModuleStep cfg) Orderly {} events :=
  along_iff (fun _ _ _ hk he hstep => hk.step he hstep) (fun _ _ hk => hk.safe_iff) Settled.init

/-! ### Timers and the last close

An armed timer reads the device, so none may be left when the device goes; the last
close deletes them. -/

/-- Nothing is armed while nobody is counted. -/
def TimersStopped (s : Driver) : Prop :=
  s.dev.openCount = 0 → s.dev.sustainTimer = none ∧ s.dev.timeoutTimer = none

theorem TimersStopped.of_count {s : Driver} (h : s.dev.openCount ≠ 0) : TimersStopped s :=
  fun hzero => absurd hzero h

/-- The last close deletes both timers. -/
theorem v4l2LoopbackClose_timers {d : Device} (h : (v4l2LoopbackClose d).openCount = 0) :
    (v4l2LoopbackClose d).sustainTimer = none ∧ (v4l2LoopbackClose d).timeoutTimer = none := by
  have hone : d.openCount = 1 := by
    rw [v4l2LoopbackClose_openCount] at h
    omega
  by_cases hfree : d.openCount = 1 ∧ d.keepFormat = false
  · rw [v4l2LoopbackClose_freed hfree.1 hfree.2]
    exact ⟨rfl, rfl⟩
  · rw [v4l2LoopbackClose_kept hfree, if_pos hone]
    exact ⟨rfl, rfl⟩

/-- No call arms a timer on a device that nobody has open. -/
theorem TimersStopped.step {s t : Driver} {call : Call} (haux : Accounted s)
    (hs : TimersStopped s) (h : Step cfg s call t) : TimersStopped t := by
  have hcounted := haux.counted
  have hopening : ∀ mem, (s.dev.opening mem).openCount = s.dev.openCount + 1 := fun mem =>
    (s.dev.opening_frame mem).openCount
  cases h.move with
  | @openFailed file mem kzalloc ret d hfree hopen =>
      cases v4l2LoopbackOpen_move hopen with
      | refused ret hrefused => exact hs
      | leaked ret hio hret =>
          refine .of_count ?_
          have := hopening mem
          simp only
          omega
  | @opened file mem kzalloc ret d o hfree hopen =>
      cases v4l2LoopbackOpen_move hopen with
      | opened hcount hkzalloc hret =>
          refine .of_count ?_
          have := (openFormat_openCount cfg mem (s.dev.opening mem)).trans (hopening mem)
          rw [Driver.afterRequest]
          simp only
          omega
  -- the last close deletes the timers, an earlier one leaves the count above 0
  | closed hfile => exact v4l2LoopbackClose_timers
  | request hfile hreq =>
      refine .of_count ?_
      rw [Driver.afterRequest]
      rw [(haux.request_kept hfile hreq).2]
      exact (haux.held hfile).2
  | sustainTimer hpending =>
      intro hzero
      have hcount : s.dev.sustainTimerClb.openCount = s.dev.openCount := by
        unfold Device.sustainTimerClb
        split <;> rfl
      rw [(hs (hcount.symm.trans hzero)).1] at hpending
      cases hpending
  | timeoutTimer hpending =>
      intro hzero
      have hcount : s.dev.timeoutTimerClb.openCount = s.dev.openCount := by
        unfold Device.timeoutTimerClb
        split <;> rfl
      rw [(hs (hcount.symm.trans hzero)).2] at hpending
      cases hpending
  | storeFormat hstore =>
      rcases attrStoreFormat_dev hstore with rfl | ⟨num, den, -, -, hset⟩
      · exact hs
      · obtain ⟨-, rfl⟩ := Device.setTimeperframe_eq_ok hset
        exact hs
  | @storeMaxopeners curr len =>
      rcases attrStoreMaxopeners_dev s.dev curr len with hsame | ⟨n, hset⟩
      · rw [TimersStopped, hsame]
        exact hs
      · rw [TimersStopped, hset]
        exact hs

/-! ### Counted handles

With a right count the last close finds the count at 0, and deletes the timers. -/

/-- Every load that gets the memory of the device succeeds, and every call keeps the count
    of the open handles right. -/
def Counted (k : Kernel) : Event → Prop
  | .load a =>
    match k.devs with
    | none => a.kzallocDevice = true → a.Whole
    | some _ => True
  | .call c =>
    match k.devs with
    | none => True
    | some dev => CountKept dev.driver c
  | .unload => True

/-- The driver of a module that is loaded. -/
structure Served (s : Driver) : Prop where
  accounted : Accounted s
  counted : OpensCounted s
  stopped : TimersStopped s

theorem Served.init (cfg : Config) : Served (Driver.init cfg) :=
  ⟨Accounted.init cfg, OpensCounted.init cfg, fun _ => ⟨rfl, rfl⟩⟩

theorem Served.step {s t : Driver} {call : Call} (hs : Served s) (hkept : CountKept s call)
    (h : Step cfg s call t) : Served t :=
  ⟨hs.accounted.step h, (hs.counted.step_iff hs.accounted h).mpr hkept,
    hs.stopped.step hs.accounted h⟩

structure Serving (k : Kernel) : Prop where
  settled : Settled k
  served : ∀ dev, k.devs = some dev → Served dev.driver

theorem Serving.init : Serving {} := ⟨Settled.init, fun _ h => (by cases h)⟩

/-- With every handle counted, a module that nobody uses has no timer pending. -/
theorem Serving.orderly (hk : Serving k) (he : Counted k e) : Orderly k e := by
  cases e with
  | load a =>
      intro hdevs
      simp only [Counted, hdevs] at he
      exact he
  | call c => trivial
  | unload =>
      intro dev hdevs hopeners
      have hserved := hk.served dev hdevs
      refine hserved.stopped ?_
      rw [hserved.counted.counted, hopeners]
      rfl

/-- The device that a load or a call leaves is served. -/
theorem Serving.step (hk : Serving k) (he : Counted k e) (h : ModuleStep cfg k e t) :
    Serving t := by
  have horderly := hk.orderly he
  refine ⟨hk.settled.step horderly h, fun dev' hdevs' => ?_⟩
  have hstep := moduleStep_of_step h
  cases e with
  | load a =>
      cases hdevs : k.devs with
      | some dev =>
          simp only [moduleStep, hdevs] at hstep
          cases hstep
      | none =>
          rw [moduleStep_load hdevs] at hstep
          cases ha : a.kzallocDevice with
          | false =>
              rw [initModule_nomem ha] at hstep
              cases hstep
              cases hdevs'
          | true =>
              rw [initModule_whole (hk.settled.absent hdevs) ha (horderly hdevs ha)] at hstep
              cases hstep
              cases hdevs'
              exact Served.init cfg
  | call c =>
      cases hdevs : k.devs with
      | none =>
          simp only [moduleStep, hdevs] at hstep
          cases hstep
      | some dev =>
          simp only [moduleStep, hdevs] at hstep
          simp only [Counted, hdevs] at he
          split at hstep
          · cases hstep
          · rename_i driver hnext
            cases hstep
            cases hdevs'
            exact (hk.served dev hdevs).step he hnext
  | unload =>
      cases hdevs : k.devs with
      | none =>
          simp only [moduleStep, hdevs] at hstep
          cases hstep
      | some dev =>
          by_cases hopeners : dev.driver.openers.keys = []
          · rw [moduleStep_unload hk.settled hdevs hopeners] at hstep
            cases hstep
            cases hdevs'
          · simp only [moduleStep, hdevs, if_neg hopeners] at hstep
            cases hstep

/-- **With every open handle counted, each unload is clean.**  After any run of loads that
    succeed as a whole, calls that keep the count right and unloads, the next one is safe:
    no timer fires on a device that is freed, and no object is lost or freed twice. -/
theorem module_counted_safe {events : List Event}
    (h : Run (Guarded Counted (ModuleStep cfg)) {} events k) (he : Counted k e) :
    Safe cfg k e := by
  have hk : Serving k := Run.invariant (fun _ _ _ hk hstep => hk.step hstep.1 hstep.2)
    Serving.init h
  exact hk.settled.safe_iff.mpr (hk.orderly he)

instance (a : Answers) : Decidable a.Whole :=
  decidable_of_iff (a.v4l2DeviceRegister = 0 ∧ a.videoDeviceAlloc = true ∧
      a.kzallocPrivate = true ∧ 0 ≤ a.videoRegisterDevice)
    ⟨fun h => ⟨h.1, h.2.1, h.2.2.1, h.2.2.2⟩, fun h => ⟨h.1, h.2, h.3, h.4⟩⟩

instance (k : Kernel) : ∀ e, Decidable (Counted k e)
  | .load a =>
    match hdevs : k.devs with
    | none => decidable_of_iff (a.kzallocDevice = true → a.Whole) (by simp only [Counted, hdevs])
    | some dev => isTrue (by simp only [Counted, hdevs])
  | .call c =>
    match hdevs : k.devs with
    | none => isTrue (by simp only [Counted, hdevs])
    | some dev => decidable_of_iff (CountKept dev.driver c) (by simp only [Counted, hdevs])
  | .unload => isTrue trivial

/-- The timers of a device whose only user has closed it. -/
theorem module_counted_safe_closed :
    ∃ k, Run (ModuleStep ⟨640, 480, 100⟩) {}
        [.load {}, .call (.openDevice 1 granting true),
          .call (.request 1 (.sCtrl .sustainFramerate 1 granting)), .call (.closeDevice 1)] k ∧
      Safe ⟨640, 480, 100⟩ k .unload := by
  obtain ⟨k, hk⟩ := Option.isSome_iff_exists.mp (by decide +kernel :
    (execute (guard Counted (moduleNext ⟨640, 480, 100⟩)) {}
      [.load {}, .call (.openDevice 1 granting true),
        .call (.request 1 (.sCtrl .sustainFramerate 1 granting)),
        .call (.closeDevice 1)]).isSome = true)
  have hguarded := Run.of_execute_guard hk
  exact ⟨k, hguarded.of_guarded, module_counted_safe hguarded trivial⟩

/-- An open that failed is still counted: the last close stops no timer, and the module is
    unloaded under it. -/
example :
    ∃ t, Run (ModuleStep ⟨640, 480, 100⟩) {}
        [.load {}, .call (.openDevice 1 granting true),
          .call (.request 1 (.sCtrl .timeoutImageIo 1 granting)), .call (.closeDevice 1),
          .call (.openDevice 1 granting true), .call (.openDevice 1 granting true),
          .call (.request 1 (.sCtrl .sustainFramerate 1 granting)), .call (.closeDevice 1),
          .unload] t ∧ t.strays = [.sustainTimer] := by
  obtain ⟨t, ht, hstrays⟩ := Option.map_eq_some_iff.mp (by decide +kernel :
    (execute (moduleNext ⟨640, 480, 100⟩) {}
        [.load {}, .call (.openDevice 1 granting true),
          .call (.request 1 (.sCtrl .timeoutImageIo 1 granting)), .call (.closeDevice 1),
          .call (.openDevice 1 granting true), .call (.openDevice 1 granting true),
          .call (.request 1 (.sCtrl .sustainFramerate 1 granting)), .call (.closeDevice 1),
          .unload]).map Kernel.strays = some [.sustainTimer])
  exact ⟨t, Run.of_execute ht, hstrays⟩

end DroidCam.Loopback.Lifecycle
