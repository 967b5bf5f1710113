import DroidCam.Lib.CString
import DroidCam.Lib.Descriptors
import DroidCam.Lib.Trial

/-
  DroidCam/SoundSearch.lean
  =========================
  How the client finds its sound device: `find_snd_device` with `set_hwparams` and
  `set_swparams`.

  Of every card with the id "Loopback" the eight devices are tried in turn; one with
  parameters that can be set, but another buffer size, ends the search.  The buffer and
  period times are globals that ALSA writes back, so a device that was refused can change
  what is asked of the next.

  What ALSA answers is up to the environment, for each device; an answer that is written
  through a pointer is a pair.
-/

namespace DroidCam.SoundSearch

open CString Descriptors Trial

/-! ### The system -/

abbrev AUDIO_RATE : Nat := 16000
abbrev DROIDCAM_PCM_CHUNK_BYTES_2 : Int := 640
abbrev EINVAL : Int := 22

/-- What ALSA answers for `hw:<card>,0,<i>`. -/
structure Pcm where
  openErr : Int
  /-- `snd_pcm_open` has set the handle. -/
  handle : Bool
  hwParamsAny : Int
  setRateResample : Int
  setAccess : Int
  setFormat : Int
  setChannels : Int
  setRateNear : Nat → Int × Nat
  setBufferTimeNear : Nat → Int × Nat
  getBufferSize : Int × Nat
  setPeriodTimeNear : Nat → Int × Nat
  getPeriodSize : Int × Nat
  hwParams : Int
  swParamsCurrent : Int
  setStartThreshold : Int → Int
  setAvailMin : Int → Int
  swParams : Int

/-- The globals of `decoder_snd.c`, and the handles that are open. -/
structure Globals where
  bufferSize : Int
  periodSize : Int
  bufferTime : Nat
  periodTime : Nat
  table : Table
deriving DecidableEq, Repr

/-- At the start of the program. -/
def Globals.init : Globals := ⟨0, 0, 40000, 20000, Table.empty⟩

/-- The cards, by what `/proc/asound/card<n>/id` holds if it can be opened. -/
structure System where
  id : Nat → Option (List Char)
  pcm : Nat → Nat → Pcm

/-! ### Parameters -/

/-- `set_hwparams`. -/
def setHwparams (p : Pcm) (g : Globals) : Int × Globals :=
  if p.hwParamsAny < 0 then (p.hwParamsAny, g)
  else if p.setRateResample < 0 then (p.setRateResample, g)
  else if p.setAccess < 0 then (p.setAccess, g)
  else if p.setFormat < 0 then (p.setFormat, g)
  else if p.setChannels < 0 then (p.setChannels, g)
  else if (p.setRateNear AUDIO_RATE).1 < 0 then ((p.setRateNear AUDIO_RATE).1, g)
  else if (p.setRateNear AUDIO_RATE).2 ≠ AUDIO_RATE then (-EINVAL, g)
  else
    let near := p.setBufferTimeNear g.bufferTime
    let g := { g with bufferTime := near.2 }
    if near.1 < 0 then (near.1, g)
    else if p.getBufferSize.1 < 0 then (p.getBufferSize.1, g)
    else
      let g := { g with bufferSize := p.getBufferSize.2 }
      let near := p.setPeriodTimeNear g.periodTime
      let g := { g with periodTime := near.2 }
      if near.1 < 0 then (near.1, g)
      else if p.getPeriodSize.1 < 0 then (p.getPeriodSize.1, g)
      else
        let g := { g with periodSize := p.getPeriodSize.2 }
        if p.hwParams < 0 then (p.hwParams, g) else (0, g)

/-- `set_swparams`. -/
def setSwparams (p : Pcm) (g : Globals) : Int :=
  if p.swParamsCurrent < 0 then p.swParamsCurrent
  else if p.setStartThreshold g.periodSize < 0 then p.setStartThreshold g.periodSize
  else if p.setAvailMin g.periodSize < 0 then p.setAvailMin g.periodSize
  else if p.swParams < 0 then p.swParams
  else 0

/-! ### The search -/

/-- A device, and the handle that it gets. -/
abbrev Subdevice := Nat × Nat

def handleOf (k : Subdevice) : Int := 8 * k.1 + k.2

def closeHandle (g : Globals) (k : Subdevice) : Globals :=
  { g with table := g.table.close (handleOf k) }

/-- One turn of the inner loop. -/
def tryDevice (w : System) (g : Globals) (k : Subdevice) : Verdict Subdevice × Globals :=
  let p := w.pcm k.1 k.2
  if p.openErr < 0 ∨ p.handle = false then (.rejected, g)
  else
    let g := { g with table := g.table.opened (handleOf k) }
    let (err, g) := setHwparams p g
    if err < 0 then (.rejected, closeHandle g k)
    else if setSwparams p g < 0 then (.rejected, closeHandle g k)
    else if g.bufferSize ≠ DROIDCAM_PCM_CHUNK_BYTES_2 then (.abandoned, closeHandle g k)
    else (.accepted k, g)

/-- `"/proc/asound/card%d/id"`. -/
def idPath (card : Nat) : List Char :=
  "/proc/asound/card".toList ++ (Nat.repr card).toList ++ "/id".toList

/-- The id is read into the array that holds the path, and compared as it lies there. -/
def isLoopback (card : Nat) (id : List Char) : Bool :=
  let got := id.take 32
  0 < got.length ∧ (cstr (got ++ (idPath card ++ [NUL]).drop got.length)).take 8 = "Loopback".toList

/-- The devices that are tried on a card. -/
def subdevices (w : System) (card : Nat) : List Subdevice :=
  match w.id card with
  | none => []
  | some id => if isLoopback card id then (List.range 8).map fun i => (card, i) else []

/-- `"hw:%d,1,%d"`. -/
def deviceName (k : Subdevice) : List Char :=
  "hw:".toList ++ (Nat.repr k.1).toList ++ ",1,".toList ++ (Nat.repr k.2).toList

/-- What `find_snd_device` returns, and `snd_device`. -/
structure Found where
  handle : Option Subdevice
  sndDevice : List Char
  globals : Globals
deriving DecidableEq, Repr

def findSndDevice (w : System) (g : Globals) : Found :=
  match firstOf (fun g card => firstOf (tryDevice w) g (subdevices w card)) g (List.range 50) with
  | (.accepted k, g) => ⟨some k, deviceName k, g⟩
  | (_, g) => ⟨none, [], g⟩

/-! ### One device

A device that is refused is closed again, but the globals keep what was read from it. -/

/-- Setting the parameters opens and closes nothing; where it succeeds, the sizes are
    those of the device. -/
inductive HwMove (p : Pcm) (g : Globals) : Int × Globals → Prop
  | refused {err : Int} {g' : Globals} (herr : err < 0) (htable : g'.table = g.table) :
      HwMove p g (err, g')
  | configured {g' : Globals} (htable : g'.table = g.table)
      (hbuffer : g'.bufferSize = p.getBufferSize.2) (hperiod : g'.periodSize = p.getPeriodSize.2) :
      HwMove p g (0, g')

theorem HwMove.ite {p : Pcm} {g : Globals} {c : Prop} [Decidable c] {x y : Int × Globals}
    (hx : c → HwMove p g x) (hy : ¬ c → HwMove p g y) : HwMove p g (if c then x else y) := by
  split
  · exact hx ‹_›
  · exact hy ‹_›

theorem setHwparams_move (p : Pcm) (g : Globals) : HwMove p g (setHwparams p g) := by
  have hinval : -EINVAL < 0 := by decide
  unfold setHwparams
  iterate 6 refine .ite (fun herr => .refused herr rfl) fun _ => ?_
  refine .ite (fun _ => .refused hinval rfl) fun _ => ?_
  iterate 5 refine .ite (fun herr => .refused herr rfl) fun _ => ?_
  exact .configured rfl rfl rfl

/-- The ways through one turn of the loop. -/
inductive TryMove (w : System) (g : Globals) (k : Subdevice) : Verdict Subdevice × Globals → Prop
  | rejected {g' : Globals} (htable : g'.table = g.table) : TryMove w g k (.rejected, g')
  | abandoned {g' : Globals} (htable : g'.table = g.table)
      (hbuffer : (w.pcm k.1 k.2).getBufferSize.2 = g'.bufferSize)
      (hsize : g'.bufferSize ≠ DROIDCAM_PCM_CHUNK_BYTES_2) : TryMove w g k (.abandoned, g')
  | accepted {g' : Globals} (htable : g'.table = g.table.opened (handleOf k))
      (hbuffer : (w.pcm k.1 k.2).getBufferSize.2 = g'.bufferSize)
      (hsize : g'.bufferSize = DROIDCAM_PCM_CHUNK_BYTES_2)
      (hperiod : g'.periodSize = (w.pcm k.1 k.2).getPeriodSize.2) :
      TryMove w g k (.accepted k, g')

theorem tryDevice_move (w : System) (g : Globals) (k : Subdevice) :
    TryMove w g k (tryDevice w g k) := by
  have hclosed : ∀ g' : Globals, g'.table = g.table.opened (handleOf k) →
      (closeHandle g' k).table = g.table := by
    intro g' hg'
    rw [closeHandle, hg', Table.close_opened]
  unfold tryDevice
  simp only
  split
  -- not opened, so there is nothing to close
  · exact .rejected rfl
  · cases hhw : setHwparams (w.pcm k.1 k.2) { g with table := g.table.opened (handleOf k) } with
    | mk err g' =>
      have hmove := setHwparams_move (w.pcm k.1 k.2) { g with table := g.table.opened (handleOf k) }
      rw [hhw] at hmove
      cases hmove with
      | refused herr htable =>
          rw [if_pos herr]
          exact .rejected (hclosed _ htable)
      | configured htable hbuffer hperiod =>
          rw [if_neg (Int.lt_irrefl 0)]
          split
          · exact .rejected (hclosed _ htable)
          · split
            -- refused by its size: this one leaves both loops
            · exact .abandoned (hclosed _ htable) hbuffer.symm ‹_›
            · rename_i hsize
              have hsize := not_not.mp hsize
              exact .accepted htable hbuffer.symm hsize hperiod

/-! ### The whole search

The first device with another buffer size ends the search, though a later card may have
the right one. -/

/-- Every device that can be tried, in order. -/
def candidates (w : System) : List Subdevice := (List.range 50).flatMap (subdevices w)

theorem passed_table {w : System} {g u : Globals} {ks : List Subdevice}
    (h : Passed (tryDevice w) g ks u) : u.table = g.table := by
  have hstep : ∀ (_ : List Subdevice) k v v', v.table = g.table →
      tryDevice w v k = (.rejected, v') → v'.table = g.table := by
    intro _ k v v' hv htry
    have hmove := tryDevice_move w v k
    rw [htry] at hmove
    cases hmove with
    | rejected htable => exact htable.trans hv
  exact Passed.rule hstep rfl h

/-- The search is decided at `k`: all devices before it are refused, it gets this
    verdict, and `g'` is what that leaves behind, so that no further one is tried. -/
structure DecidedAt (w : System) (g : Globals) (k : Subdevice) (v : Verdict Subdevice)
    (g' : Globals) : Prop where
  reached : ∃ pre post u, candidates w = pre ++ k :: post ∧ Passed (tryDevice w) g pre u ∧
    tryDevice w u k = (v, g')
  buffer : (w.pcm k.1 k.2).getBufferSize.2 = g'.bufferSize

/-- What `find_snd_device` ends with. -/
inductive Outcome (w : System) (g : Globals) (held : List Int) (r : Found) : Prop
  /-- The first device that is not refused has the buffer size that is wanted. -/
  | found (k : Subdevice) (hdecided : DecidedAt w g k (.accepted k) r.globals)
      (hhandle : r.handle = some k) (hname : r.sndDevice = deviceName k)
      (hbuffer : r.globals.bufferSize = DROIDCAM_PCM_CHUNK_BYTES_2)
      (hperiod : r.globals.periodSize = (w.pcm k.1 k.2).getPeriodSize.2)
      (hholds : r.globals.table.Holds (handleOf k :: held))
  /-- It has another size, and no further one is tried. -/
  | otherSize (k : Subdevice) (hdecided : DecidedAt w g k .abandoned r.globals)
      (hhandle : r.handle = none) (hname : r.sndDevice = [])
      (hbuffer : r.globals.bufferSize ≠ DROIDCAM_PCM_CHUNK_BYTES_2)
      (hholds : r.globals.table.Holds held)
  /-- All devices are refused. -/
  | missing (hpassed : Passed (tryDevice w) g (candidates w) r.globals)
      (hhandle : r.handle = none) (hname : r.sndDevice = []) (hholds : r.globals.table.Holds held)

/-- **The sound device that the client uses**; every other handle has been closed. -/
theorem find_snd_device (w : System) {g : Globals} {held : List Int} (hg : g.table.Holds held) :
    Outcome w g held (findSndDevice w g) := by
  rw [findSndDevice, firstOf_nested]
  cases hsearch : firstOf (tryDevice w) g ((List.range 50).flatMap (subdevices w)) with
  | mk v u =>
    cases v with
    | rejected =>
        have hpassed := passed_of_firstOf hsearch
        exact .missing hpassed rfl rfl (passed_table hpassed ▸ hg)
    | abandoned =>
        obtain ⟨pre, k, post, v, hsplit, hpassed, htry⟩ := decided_of_firstOf (by simp) hsearch
        have hmove := tryDevice_move w v k
        rw [htry] at hmove
        cases hmove with
        | abandoned htable hbuffer hsize =>
            have hholds : u.table.Holds held := by
              rw [htable, passed_table hpassed]
              exact hg
            exact .otherSize k ⟨⟨pre, post, v, hsplit, hpassed, htry⟩, hbuffer⟩ rfl rfl hsize hholds
    | accepted k =>
        obtain ⟨pre, k', post, v, hsplit, hpassed, htry⟩ := decided_of_firstOf (by simp) hsearch
        have hmove := tryDevice_move w v k'
        rw [htry] at hmove
        cases hmove with
        | accepted htable hbuffer hsize hperiod =>
            have hholds : u.table.Holds (handleOf k :: held) := by
              rw [htable, passed_table hpassed]
              exact hg.opened _
            exact .found k ⟨⟨pre, post, v, hsplit, hpassed, htry⟩, hbuffer⟩ rfl rfl hsize hperiod
              hholds

/-- A device that grants what it is asked for. -/
def granting : Pcm where
  openErr := 0
  handle := true
  hwParamsAny := 0
  setRateResample := 0
  setAccess := 0
  setFormat := 0
  setChannels := 0
  setRateNear := fun rate => (0, rate)
  setBufferTimeNear := fun time => (0, time)
  getBufferSize := (0, 640)
  setPeriodTimeNear := fun time => (0, time)
  getPeriodSize := (0, 320)
  hwParams := 0
  swParamsCurrent := 0
  setStartThreshold := fun _ => 0
  setAvailMin := fun _ => 0
  swParams := 0

/-- The second card is a loopback, and its first device is busy. -/
def secondCard : System where
  id := fun card => if card = 0 then some "PCH\n".toList
    else if card = 1 then some "Loopback\n".toList else none
  pcm := fun _ i => if i = 0 then { granting with openErr := -16 } else granting

theorem find_snd_device_secondCard :
    Outcome secondCard Globals.init [] (findSndDevice secondCard Globals.init) ∧
      (findSndDevice secondCard Globals.init).handle = some (1, 1) ∧
      (findSndDevice secondCard Globals.init).sndDevice = "hw:1,1,1".toList :=
  ⟨find_snd_device secondCard Table.Holds.empty, by decide +kernel, by decide +kernel⟩

end DroidCam.SoundSearch
