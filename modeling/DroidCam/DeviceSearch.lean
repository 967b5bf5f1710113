import DroidCam.Lib.CString
import DroidCam.Lib.Descriptors
import DroidCam.Lib.Trial
import DroidCam.Loopback.Geometry

/-
  DroidCam/DeviceSearch.lean
  ==========================
  How the client finds its video device: `decoder_v4l2.c` and the first half of
  `decoder_init`.

  The nodes `/dev/video0` to `/dev/video98` are opened one after the other until one
  reports a bus that begins as asked: first that of this driver, then that of any
  v4l2loopback.  `open_v4l2_device` treats descriptor 0 as a failure, and so it never
  closes one.

  What `stat`, `open` and the ioctls answer is up to the environment, for each path; an
  ioctl is repeated until it is not interrupted, and `xioctl` is the last answer.
-/

namespace DroidCam.DeviceSearch

open CString Descriptors Trial
open JpgDecoder (JpgDecCtx decoderInitOf decoderInit)
open Loopback (V4l2PixFormat V4L2_PIX_FMT_YUV420 V4L2_FIELD_NONE)

/-! ### The system -/

def V4L2_PLATFORM : List Char := "platform:v4l2loopback".toList

def V4L2_PLATFORM_DC : List Char := "platform:v4l2loopback_dc".toList

/-- What is behind a descriptor: `bus_info` of VIDIOC_QUERYCAP, VIDIOC_G_FMT for the
    output or the capture side, VIDIOC_S_FMT for the output side. -/
structure Ioctls where
  queryCap : Except Errno (List Char)
  getFormat : (output : Bool) → Except Errno V4l2PixFormat
  setFormat : V4l2PixFormat → Except Errno V4l2PixFormat

/-- A path: whether `stat` finds it, and a character device; what `open` answers. -/
structure Node where
  stat : Option Bool
  openReply : Reply
  ioctls : Ioctls

abbrev Paths := List Char → Node

/-- `"/dev/video%d"`. -/
def devicePath (nr : Nat) : List Char := "/dev/video".toList ++ (Nat.repr nr).toList

/-- `strncmp(a, b, n) == 0`. -/
def strncmpEq (n : Nat) (a b : List Char) : Bool := (cstr a).take n == (cstr b).take n

/-! ### The search -/

def openV4l2Device (node : Node) (t : Table) : Int × Table :=
  match node.stat, node.openReply with
  | some true, .value fd => if fd = 0 then (0, t.opened 0) else (fd, t.opened fd)
  | _, _ => (0, t)

/-- One turn of the loop of `find_v4l2_device`. -/
def tryDevice (w : Paths) (busInfo : List Char) (t : Table) (nr : Nat) :
    Verdict (Int × List Char) × Table :=
  let node := w (devicePath nr)
  let (fd, t) := openV4l2Device node t
  if fd ≤ 0 then (.rejected, t)
  else
    match node.ioctls.queryCap with
    | .error _ => (.rejected, t.close fd)
    | .ok cap =>
      if strncmpEq busInfo.length busInfo cap then (.accepted (fd, devicePath nr), t)
      else (.rejected, t.close fd)

/-- A device that was looked for: its descriptor, `v4l2_device`, and what is open. -/
structure Found where
  fd : Int
  v4l2Device : List Char
  table : Table
deriving DecidableEq, Repr

def findV4l2Device (w : Paths) (busInfo : List Char) (t : Table) : Found :=
  match firstOf (tryDevice w busInfo) t (List.range 99) with
  | (.accepted (fd, path), t) => ⟨fd, path, t⟩
  | (_, t) => ⟨-1, [], t⟩

/-! ### What it finds

A node that opens as descriptor 0 is passed over as one that does not open, but it stays
open. -/

/-- The descriptor that `open` gives, if it comes to that. -/
def Node.opens (node : Node) : Option Nat :=
  match node.stat, node.openReply with
  | some true, .value fd => some fd
  | _, _ => none

theorem openV4l2Device_eq (node : Node) (t : Table) :
    openV4l2Device node t =
      (((node.opens.getD 0 : Nat) : Int), node.opens.elim t fun fd => t.opened fd) := by
  unfold openV4l2Device Node.opens
  split
  · split
    · rename_i hzero
      subst hzero
      rfl
    · rfl
  · rfl

/-- The node can be opened, and its bus begins as asked. -/
structure Selects (w : Paths) (busInfo : List Char) (nr fd : Nat) : Prop where
  opens : (w (devicePath nr)).opens = some fd
  pos : 0 < fd
  cap : ∃ cap, (w (devicePath nr)).ioctls.queryCap = .ok cap ∧
    strncmpEq busInfo.length busInfo cap = true

def Unselected (w : Paths) (busInfo : List Char) (nr : Nat) : Prop :=
  ∀ fd, ¬ Selects w busInfo nr fd

/-- What the search leaves open of these nodes: those that are opened as descriptor 0. -/
def zeros (w : Paths) (nrs : List Nat) : List Int :=
  .replicate (nrs.countP fun nr => (w (devicePath nr)).opens = some 0) 0

inductive TryMove (w : Paths) (busInfo : List Char) (t : Table) (nr : Nat) :
    Verdict (Int × List Char) × Table → Prop
  | passed (hno : Unselected w busInfo nr) (hopens : (w (devicePath nr)).opens ≠ some 0) :
      TryMove w busInfo t nr (.rejected, t)
  | zero (hno : Unselected w busInfo nr) (hopens : (w (devicePath nr)).opens = some 0) :
      TryMove w busInfo t nr (.rejected, t.opened 0)
  | selected {fd : Nat} (hfd : Selects w busInfo nr fd) :
      TryMove w busInfo t nr (.accepted (fd, devicePath nr), t.opened fd)

theorem tryDevice_move (w : Paths) (busInfo : List Char) (t : Table) (nr : Nat) :
    TryMove w busInfo t nr (tryDevice w busInfo t nr) := by
  rw [tryDevice, openV4l2Device_eq]
  cases hopens : (w (devicePath nr)).opens with
  | none =>
      refine .passed (fun fd hfd => ?_) (by simp [hopens])
      cases hopens.symm.trans hfd.opens
  | some fd =>
      -- `fd <= 0`: descriptor 0 counts as a failure, and is not closed
      by_cases hzero : fd = 0
      · subst hzero
        refine .zero (fun fd hfd => ?_) hopens
        obtain rfl := Option.some.inj (hopens.symm.trans hfd.opens)
        -- from here on the node is a device or is closed again
        exact Nat.lt_irrefl 0 hfd.pos
      · have hpos : ¬ ((fd : Int) ≤ 0) := by omega
        have hclosed : (∀ cap, (w (devicePath nr)).ioctls.queryCap = .ok cap →
            strncmpEq busInfo.length busInfo cap = false) →
            TryMove w busInfo t nr (.rejected, (t.opened fd).close fd) := by
          intro hcap
          rw [Table.close_opened]
          refine .passed (fun fd' hfd => ?_) (by simpa [hopens] using hzero)
          obtain ⟨cap, hok, hmatch⟩ := hfd.cap
          rw [hcap cap hok] at hmatch
          cases hmatch
        simp only [Option.getD_some, Option.elim_some, if_neg hpos]
        cases hcap : (w (devicePath nr)).ioctls.queryCap with
        | error e => exact hclosed fun cap hok => by cases hcap.symm.trans hok
        | ok cap =>
            by_cases hmatch : strncmpEq busInfo.length busInfo cap = true
            · simp only [hmatch, if_true]
              exact .selected ⟨hopens, Nat.pos_of_ne_zero hzero, cap, hcap, hmatch⟩
            · simp only [hmatch, if_false, Bool.false_eq_true]
              refine hclosed fun cap' hok => ?_
              obtain rfl := Except.ok.inj (hcap.symm.trans hok)
              exact Bool.eq_false_iff.mpr hmatch

/-- What is open after nodes that were rejected. -/
structure Searched (w : Paths) (busInfo : List Char) (held : List Int) (nrs : List Nat)
    (t : Table) : Prop where
  holds : t.Holds (zeros w nrs ++ held)
  unselected : ∀ nr ∈ nrs, Unselected w busInfo nr

theorem Searched.step {w : Paths} {busInfo : List Char} {held : List Int} {nrs : List Nat}
    {nr : Nat} {t u : Table} (ht : Searched w busInfo held nrs t)
    (h : tryDevice w busInfo t nr = (.rejected, u)) : Searched w busInfo held (nrs ++ [nr]) u := by
  have hmove := tryDevice_move w busInfo t nr
  rw [h] at hmove
  have hall : Unselected w busInfo nr → ∀ m ∈ nrs ++ [nr], Unselected w busInfo m := by
    intro hno m hm
    rcases List.mem_append.mp hm with hm | hm
    · exact ht.unselected m hm
    · rwa [List.mem_singleton.mp hm]
  cases hmove with
  | passed hno hopens =>
      have hsame : zeros w (nrs ++ [nr]) = zeros w nrs := by simp [zeros, hopens]
      exact ⟨hsame ▸ ht.holds, hall hno⟩
  | zero hno hopens =>
      have hmore : zeros w (nrs ++ [nr]) = 0 :: zeros w nrs := by
        simp [zeros, hopens, List.replicate_succ]
      exact ⟨hmore ▸ ht.holds.opened 0, hall hno⟩

theorem Searched.of_passed {w : Paths} {busInfo : List Char} {held : List Int} {nrs : List Nat}
    {t u : Table} (ht : t.Holds held) (h : Passed (tryDevice w busInfo) t nrs u) :
    Searched w busInfo held nrs u := by
  have hstart : Searched w busInfo held [] t := ⟨ht, nofun⟩
  exact Passed.rule (fun _ _ _ _ hsearched hstep => hsearched.step hstep) hstart h

/-- The search found the first node there is, or there is none. -/
inductive FoundMove (w : Paths) (busInfo : List Char) (held : List Int) (r : Found) : Prop
  | found (nr fd : Nat) (hlt : nr < 99) (hselects : Selects w busInfo nr fd)
      (hfirst : ∀ m < nr, Unselected w busInfo m) (hfd : r.fd = fd)
      (hname : r.v4l2Device = devicePath nr)
      (hholds : r.table.Holds (fd :: (zeros w (List.range nr) ++ held)))
  | none (hnone : ∀ nr < 99, Unselected w busInfo nr) (hfd : r.fd = -1) (hname : r.v4l2Device = [])
      (hholds : r.table.Holds (zeros w (List.range 99) ++ held))

theorem findV4l2Device_move {w : Paths} {busInfo : List Char} {t : Table} {held : List Int}
    (ht : t.Holds held) : FoundMove w busInfo held (findV4l2Device w busInfo t) := by
  unfold findV4l2Device
  cases hsearch : firstOf (tryDevice w busInfo) t (List.range 99) with
  | mk v u =>
    cases v with
    | rejected =>
        have hdone := Searched.of_passed ht (passed_of_firstOf hsearch)
        exact .none (fun nr hnr => hdone.unselected nr (List.mem_range.mpr hnr)) rfl rfl hdone.holds
    | abandoned =>
        obtain ⟨pre, nr, post, v, -, -, htry⟩ := decided_of_firstOf (by simp) hsearch
        have hmove := tryDevice_move w busInfo v nr
        rw [htry] at hmove
        cases hmove
    | accepted found =>
        obtain ⟨pre, nr, post, v, hrange, hpassed, htry⟩ := decided_of_firstOf (by simp) hsearch
        obtain ⟨rfl, hlt⟩ := range_eq_append_cons hrange
        have hdone := Searched.of_passed ht hpassed
        have hmove := tryDevice_move w busInfo v nr
        rw [htry] at hmove
        cases hmove with
        | @selected fd hselects =>
            exact .found nr fd hlt hselects
              (fun m hm => hdone.unselected m (List.mem_range.mpr hm)) rfl rfl
              (hdone.holds.opened fd)

/-! ### The size of the device -/

/-- `query_v4l_device`; 0 x 0 is what it leaves when something fails.  The control
    "keep_format" that it sets last is left out. -/
def queryV4lDevice (dev : Ioctls) (webcamW webcamH : Nat) : Nat × Nat :=
  let queried (output : Bool) : Nat × Nat :=
    match dev.getFormat output with
    | .error _ => (0, 0)
    | .ok f =>
      if f.pixelformat ≠ V4L2_PIX_FMT_YUV420 then (0, 0)
      else if f.width ≤ 0 ∨ f.height ≤ 0 then (0, 0)
      else (f.width, f.height)
  match dev.queryCap with
  | .error _ => (0, 0)
  | .ok cap =>
    if strncmpEq V4L2_PLATFORM_DC.length V4L2_PLATFORM_DC cap then queried false
    else
      -- a failing VIDIOC_G_FMT leaves the zeros
      let f := (dev.getFormat true).toOption.getD ⟨0, 0, 0, 0, 0, 0, 0⟩
      match dev.setFormat
        { f with
          width := webcamW, height := webcamH, pixelformat := V4L2_PIX_FMT_YUV420
          field := V4L2_FIELD_NONE } with
      | .ok f => (f.width, f.height)
      | .error _ => queried true

/-- `%03d`. -/
def threeDigits (n : Nat) : List Char :=
  let digits := (Nat.repr n).toList
  .replicate (3 - digits.length) '0' ++ digits

/-- What this driver answers: `vidioc_querycap`, `vidioc_g_fmt_cap`, `vidioc_g_fmt_out`
    and `vidioc_s_fmt_out`. -/
def driverIoctls (mem : Loopback.Allocation) (devicenr : Nat) (d : Loopback.Device) : Ioctls where
  queryCap := .ok (("platform:v4l2loopback_dc-".toList ++ threeDigits devicenr).take 31)
  getFormat output :=
    if output then .ok d.pixFormat
    else if d.readyForCapture then .ok d.pixFormat
    else .error 22
  setFormat f := .ok (Loopback.vidiocSFmtOut mem d f).1

/-- A string begins with itself. -/
theorem strncmpEq_append {a rest : List Char} (ha : NUL ∉ a) :
    strncmpEq a.length a (a ++ rest) = true := by
  have hne : ∀ c ∈ a, decide (c ≠ NUL) = true := by
    intro c hc
    have hne : c ≠ NUL := fun heq => ha (heq ▸ hc)
    simpa using hne
  rw [strncmpEq, cstr_of_no_nul ha, cstr, List.takeWhile_append_of_pos hne, List.take_left,
    List.take_length]
  exact beq_self_eq_true a

/-- **The client finds out what the driver has**: the model of the ioctls agrees with the
    one of the device. -/
theorem queryV4lDevice_driver (mem : Loopback.Allocation) (devicenr : Nat) (d : Loopback.Device)
    (webcamW webcamH : Nat) :
    queryV4lDevice (driverIoctls mem devicenr d) webcamW webcamH = Loopback.queryV4lDevice d := by
  have hlike : ("platform:v4l2loopback_dc-".toList ++ threeDigits devicenr).take 31 =
      V4L2_PLATFORM_DC ++ ('-' :: threeDigits devicenr).take 7 := rfl
  have hmatch : strncmpEq V4L2_PLATFORM_DC.length V4L2_PLATFORM_DC
      (("platform:v4l2loopback_dc-".toList ++ threeDigits devicenr).take 31) = true := by
    rw [hlike]
    exact strncmpEq_append (by decide)
  simp only [queryV4lDevice, driverIoctls, hmatch, if_true, Bool.false_eq_true, if_false,
    Loopback.queryV4lDevice]
  cases d.readyForCapture with
  | true => rfl
  | false => rfl

/-! ### `decoder_init` -/

/-- The device half of `decoder_init`; `stdin` is what descriptor 0 refers to, and the
    paths may answer differently in the second search. -/
structure World where
  paths : Paths
  pathsAgain : Paths
  stdin : Ioctls

/-- `decoder_init` has returned `ret`. -/
structure Initialized where
  ret : Int
  droidcamDeviceFd : Int
  webcamW : Nat
  webcamH : Nat
  v4l2Device : List Char
  table : Table
deriving DecidableEq, Repr

/-- `set_v4l2_device`: what fits into `char v4l2_device[32]`. -/
def setV4l2Device (device : List Char) : List Char := (cstr device).take 31

/-- The device, and what its descriptor refers to. -/
def findDevice (w : World) (device : Option (List Char)) (t : Table) : Found × Ioctls :=
  match device with
  | some device =>
    let node := w.paths (setV4l2Device device)
    let (fd, t) := openV4l2Device node t
    (⟨fd, setV4l2Device device, t⟩, if fd = 0 then w.stdin else node.ioctls)
  | none =>
    let r := findV4l2Device w.paths V4L2_PLATFORM_DC t
    if r.fd < 0 then
      let r := findV4l2Device w.pathsAgain V4L2_PLATFORM r.table
      (r, (w.pathsAgain r.v4l2Device).ioctls)
    else (r, (w.paths r.v4l2Device).ioctls)

def decoderInitDevice (w : World) (device : Option (List Char)) (width height : Nat) (t : Table) :
    Initialized :=
  let (r, dev) := findDevice w device t
  if r.fd < 0 then ⟨1, 0, 320, 240, r.v4l2Device, r.table⟩
  else
    let (webcamW, webcamH) := queryV4lDevice dev width height
    let ret := if (decoderInitOf (webcamW, webcamH)).isSome then 1 else 0
    ⟨ret, r.fd, webcamW, webcamH, r.v4l2Device, r.table⟩

/-- What `decoder_init` settles on: the first device of this driver, else the first
    v4l2loopback, else none; or the device that is named, but descriptor 0 when that
    one does not open. -/
inductive Chosen (w : World) (width height : Nat) (held : List Int) (r : Initialized) :
    Option (List Char) → Prop
  | own (nr fd : Nat) (hlt : nr < 99) (hselects : Selects w.paths V4L2_PLATFORM_DC nr fd)
      (hfirst : ∀ m < nr, Unselected w.paths V4L2_PLATFORM_DC m)
      (hfd : r.droidcamDeviceFd = fd) (hname : r.v4l2Device = devicePath nr)
      (hsize : (r.webcamW, r.webcamH) =
        queryV4lDevice (w.paths (devicePath nr)).ioctls width height)
      (hholds : r.table.Holds (fd :: (zeros w.paths (List.range nr) ++ held))) :
      Chosen w width height held r none
  | generic (nr fd : Nat) (hlt : nr < 99) (hno : ∀ m < 99, Unselected w.paths V4L2_PLATFORM_DC m)
      (hselects : Selects w.pathsAgain V4L2_PLATFORM nr fd)
      (hfirst : ∀ m < nr, Unselected w.pathsAgain V4L2_PLATFORM m)
      (hfd : r.droidcamDeviceFd = fd) (hname : r.v4l2Device = devicePath nr)
      (hsize : (r.webcamW, r.webcamH) =
        queryV4lDevice (w.pathsAgain (devicePath nr)).ioctls width height)
      (hholds : r.table.Holds
        (fd :: (zeros w.pathsAgain (List.range nr) ++ (zeros w.paths (List.range 99) ++ held)))) :
      Chosen w width height held r none
  | missing (hno : ∀ m < 99, Unselected w.paths V4L2_PLATFORM_DC m)
      (hnone : ∀ m < 99, Unselected w.pathsAgain V4L2_PLATFORM m)
      (hfd : r.droidcamDeviceFd = 0) (hname : r.v4l2Device = [])
      (hsize : (r.webcamW, r.webcamH) = (320, 240))
      (hholds : r.table.Holds
        (zeros w.pathsAgain (List.range 99) ++ (zeros w.paths (List.range 99) ++ held))) :
      Chosen w width height held r none
  | named (device : List Char) (fd : Nat) (hpos : 0 < fd)
      (hopens : (w.paths (setV4l2Device device)).opens = some fd)
      (hfd : r.droidcamDeviceFd = fd) (hname : r.v4l2Device = setV4l2Device device)
      (hsize : (r.webcamW, r.webcamH) =
        queryV4lDevice (w.paths (setV4l2Device device)).ioctls width height)
      (hholds : r.table.Holds (fd :: held)) :
      Chosen w width height held r (some device)
  | unopened (device : List Char) (hopens : (w.paths (setV4l2Device device)).opens.getD 0 = 0)
      (hfd : r.droidcamDeviceFd = 0) (hname : r.v4l2Device = setV4l2Device device)
      (hsize : (r.webcamW, r.webcamH) = queryV4lDevice w.stdin width height)
      (hholds : r.table.Holds
        (((w.paths (setV4l2Device device)).opens.elim [] fun _ => [0]) ++ held)) :
      Chosen w width height held r (some device)

theorem isSome_decoderInitOf {W H : Nat} :
    (decoderInitOf (W, H)).isSome = true ↔ (2 ≤ W ∧ W ≤ 9999) ∧ 2 ≤ H ∧ H ≤ 9999 := by
  unfold decoderInitOf
  split
  · refine iff_of_false (by simp) ?_
    omega
  · refine iff_of_true rfl ?_
    omega

theorem decoderInitDevice_missing {w : World} {device : Option (List Char)} {width height : Nat}
    {t : Table} (h : (findDevice w device t).1.fd < 0) :
    decoderInitDevice w device width height t =
      ⟨1, 0, 320, 240, (findDevice w device t).1.v4l2Device, (findDevice w device t).1.table⟩ := by
  rw [decoderInitDevice]
  simp only [if_pos h]

/-- What `decoder_init` makes of a device that was found. -/
structure Queried (width height : Nat) (found : Found × Ioctls) (r : Initialized) : Prop where
  fd : r.droidcamDeviceFd = found.1.fd
  size : (r.webcamW, r.webcamH) = queryV4lDevice found.2 width height
  name : r.v4l2Device = found.1.v4l2Device
  table : r.table = found.1.table

theorem decoderInitDevice_queried {w : World} {device : Option (List Char)}
    (width height : Nat) {t : Table} (h : 0 ≤ (findDevice w device t).1.fd) :
    Queried width height (findDevice w device t) (decoderInitDevice w device width height t) := by
  rw [decoderInitDevice]
  simp only [if_neg (Int.not_lt.mpr h)]
  exact ⟨rfl, rfl, rfl, rfl⟩

theorem decoderInitDevice_ret (w : World) (device : Option (List Char)) (width height : Nat)
    (t : Table) :
    let r := decoderInitDevice w device width height t
    r.ret = 1 ↔ (2 ≤ r.webcamW ∧ r.webcamW ≤ 9999) ∧ 2 ≤ r.webcamH ∧ r.webcamH ≤ 9999 := by
  intro r
  by_cases hfd : (findDevice w device t).1.fd < 0
  · have hr : r = _ := decoderInitDevice_missing hfd
    rw [hr]
    have hsize : (2 ≤ 320 ∧ 320 ≤ 9999) ∧ 2 ≤ 240 ∧ 240 ≤ 9999 := by decide
    exact iff_of_true rfl hsize
  · simp only [r, decoderInitDevice, if_neg hfd]
    rw [← isSome_decoderInitOf]
    split
    · exact iff_of_true rfl ‹_›
    · exact iff_of_false (by decide) ‹_›

/-- **The search without a name.** -/
theorem findDevice_unnamed (w : World) (width height : Nat) {t : Table} {held : List Int}
    (ht : t.Holds held) :
    Chosen w width height held (decoderInitDevice w none width height t) none := by
  have hown : FoundMove w.paths V4L2_PLATFORM_DC held _ := findV4l2Device_move ht
  cases hown with
  | found nr fd hlt hselects hfirst hfd hname hholds =>
      have hfound : findDevice w none t = (findV4l2Device w.paths V4L2_PLATFORM_DC t,
          (w.paths (devicePath nr)).ioctls) := by
        rw [findDevice]
        simp only [hfd, hname, if_neg (Int.not_lt.mpr (Int.natCast_nonneg fd))]
      have hpos : 0 ≤ (findDevice w none t).1.fd := by
        rw [hfound]
        simp only [hfd]
        exact Int.natCast_nonneg fd
      have hr := decoderInitDevice_queried width height hpos
      rw [hfound] at hr
      exact .own nr fd hlt hselects hfirst (hr.fd.trans hfd) (hr.name.trans hname) hr.size
        (hr.table ▸ hholds)
  -- nothing of this driver: the search runs once more, over what the first one left
  -- open
  | none hno hfd hname hholds =>
      have hfound : findDevice w none t =
          let r := findV4l2Device w.pathsAgain V4L2_PLATFORM
            (findV4l2Device w.paths V4L2_PLATFORM_DC t).table
          (r, (w.pathsAgain r.v4l2Device).ioctls) := by
        rw [findDevice]
        simp only [hfd]
        rfl
      have hagain : FoundMove w.pathsAgain V4L2_PLATFORM _ _ := findV4l2Device_move hholds
      cases hagain with
      | found nr fd hlt hselects hfirst hfd' hname' hholds' =>
          have hpos : 0 ≤ (findDevice w none t).1.fd := by
            rw [hfound]
            simp only [hfd']
            exact Int.natCast_nonneg fd
          have hr := decoderInitDevice_queried width height hpos
          rw [hfound] at hr
          simp only [hname'] at hr
          exact .generic nr fd hlt hno hselects hfirst (hr.fd.trans hfd') (hr.name.trans hname')
            hr.size (hr.table ▸ hholds')
      | none hnone hfd' hname' hholds' =>
          have hneg : (findDevice w none t).1.fd < 0 := by
            rw [hfound]
            simp only [hfd']
            decide
          rw [decoderInitDevice_missing hneg, hfound]
          exact .missing hno hnone rfl hname' rfl hholds'

theorem findDevice_named (w : World) (device : List Char) (width height : Nat) {t : Table}
    {held : List Int} (ht : t.Holds held) :
    Chosen w width height held (decoderInitDevice w (some device) width height t)
      (some device) := by
  have hfound : findDevice w (some device) t =
      (⟨((w.paths (setV4l2Device device)).opens.getD 0 : Nat), setV4l2Device device,
        (w.paths (setV4l2Device device)).opens.elim t fun fd => t.opened fd⟩,
        if ((w.paths (setV4l2Device device)).opens.getD 0 : Int) = 0 then w.stdin
        else (w.paths (setV4l2Device device)).ioctls) := by
    rw [findDevice, openV4l2Device_eq]
  have hpos : 0 ≤ (findDevice w (some device) t).1.fd := by
    rw [hfound]
    exact Int.natCast_nonneg _
  have hr := decoderInitDevice_queried width height hpos
  rw [hfound] at hr
  cases hopens : (w.paths (setV4l2Device device)).opens with
  | none =>
      simp only [hopens] at hr
      refine .unopened device (by rw [hopens]; rfl) hr.fd hr.name hr.size ?_
      rw [hopens, hr.table]
      -- a name alone decides; whether the bus matches is not asked here
      exact ht
  | some fd =>
      by_cases hzero : fd = 0
      · subst hzero
        simp only [hopens] at hr
        refine .unopened device (by rw [hopens]; rfl) hr.fd hr.name hr.size ?_
        rw [hopens, hr.table]
        exact ht.opened 0
      · have hne : ¬ ((fd : Int) = 0) := by omega
        simp only [hopens, Option.getD_some, if_neg hne] at hr
        refine .named device fd (Nat.pos_of_ne_zero hzero) hopens hr.fd hr.name hr.size ?_
        rw [hr.table]
        exact ht.opened fd

/-- **The device that the client uses**, its size, and what is left open. -/
theorem decoder_init_device (w : World) (device : Option (List Char)) (width height : Nat)
    {t : Table} {held : List Int} (ht : t.Holds held) :
    let r := decoderInitDevice w device width height t
    Chosen w width height held r device ∧
      (r.ret = 1 ↔ (2 ≤ r.webcamW ∧ r.webcamW ≤ 9999) ∧ 2 ≤ r.webcamH ∧ r.webcamH ≤ 9999) := by
  refine ⟨?_, decoderInitDevice_ret w device width height t⟩
  cases device with
  | none => exact findDevice_unnamed w width height ht
  | some device => exact findDevice_named w device width height ht

/-- `/dev/video0` is a webcam and `/dev/video2` is a device of this driver. -/
def webcamFirst : World where
  paths := fun path =>
    if path = devicePath 0 then
      ⟨some true, .value 3,
        ⟨.ok "usb-0000:00:14.0-1".toList, fun _ => .error 22, fun _ => .error 22⟩⟩
    else if path = devicePath 2 then
      ⟨some true, .value 3, driverIoctls Loopback.granting 0
        (Loopback.openFormat ⟨640, 480, 100⟩ Loopback.granting
          (Loopback.Device.init ⟨640, 480, 100⟩))⟩
    else ⟨none, .error 2, ⟨.error 25, fun _ => .error 25, fun _ => .error 25⟩⟩
  pathsAgain := fun _ => ⟨none, .error 2, ⟨.error 25, fun _ => .error 25, fun _ => .error 25⟩⟩
  stdin := ⟨.error 25, fun _ => .error 25, fun _ => .error 25⟩

theorem decoder_init_device_webcamFirst :
    Chosen webcamFirst 640 480 [] (decoderInitDevice webcamFirst none 640 480 Table.empty) none ∧
      (decoderInitDevice webcamFirst none 640 480 Table.empty).v4l2Device =
        "/dev/video2".toList := by
  exact ⟨(decoder_init_device webcamFirst none 640 480 Table.Holds.empty).1, by decide +kernel⟩

end DroidCam.DeviceSearch
