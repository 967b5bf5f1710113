import DroidCam.Loopback.Operations
import DroidCam.Lib.LabelledRun
import Mathlib.Data.List.AList

/-
  DroidCam/Loopback/Driver.lean
  =============================
  The driver as a machine: the device with its open handles, and one step for
  each call from user space, each timer that fires and each attribute written.

  A call holds what comes from outside the driver: its arguments, the answers of
  the allocators, failing copies, a pending signal.  So `driverStep` is a
  function, and a run is a list of calls.  Calls are atomic.
-/

namespace DroidCam.Loopback

open LabelledRun

/-- A call on an open handle. -/
inductive Request where
  | enumFrameintervals (width height : Nat)
  | tryFmtOut (f : V4l2PixFormat)
  | sFmtOut (f : V4l2PixFormat) (mem : Allocation)
  | sParm (type : BufType) (tpf : Fract)
  | sCtrl (id : ControlId) (value : Int) (mem : Allocation)
  | reqbufs (memory : MemoryType) (count : Nat)
  | querybuf (type : BufType) (index : Nat)
  | qbuf (type : BufType) (index : Nat)
  | dqbuf (type : BufType) (w : Waiting)
  | streamon (type : BufType) (mem : Allocation)
  | mmap (pgoff size : Nat) (mem : Allocation) (inserted : Bool)
  | read (count : Nat) (w : Waiting) (fault : Bool)
  | write (buf : List UInt8) (mem : Allocation) (fault : Option Nat)
  | poll

inductive Call where
  | openDevice (file : Nat) (mem : Allocation) (kzalloc : Bool)
  | closeDevice (file : Nat)
  | request (file : Nat) (req : Request)
  | sustainTimer
  | timeoutTimer
  | storeFormat (text : FormatText) (len : Nat)
  | storeMaxopeners (curr : Option Nat) (len : Nat)

structure Driver where
  dev : Device
  openers : AList fun _ : Nat => Opener

/-- Why there is no next state: the environment cannot make the call now, or the
    driver has a fault. -/
inductive Stop where
  | disabled
  | fault (f : Fault)
deriving DecidableEq, Repr

variable (cfg : Config)

def request (d : Device) (o : Opener) : Request → Outcome
  | .enumFrameintervals width height =>
    let (reply, o) := vidiocEnumFrameintervals d o width height
    .ok (reply, d, o)
  | .tryFmtOut f => .ok (.format (vidiocTryFmtOut d f).1, (vidiocTryFmtOut d f).2, o)
  | .sFmtOut f mem => .ok (.format (vidiocSFmtOut mem d f).1, (vidiocSFmtOut mem d f).2, o)
  | .sParm type tpf => (vidiocSParm cfg d type tpf).map fun (reply, d) => (reply, d, o)
  | .sCtrl id value mem =>
    let (reply, d) := vidiocSCtrl cfg mem d id value
    .ok (reply, d, o)
  | .reqbufs memory count => .ok (vidiocReqbufs d o memory count)
  | .querybuf type index => vidiocQuerybuf d o type index
  | .qbuf type index => vidiocQbuf d o type index
  | .dqbuf type w => vidiocDqbuf w d o type
  | .streamon type mem => .ok (vidiocStreamon mem d o type)
  | .mmap pgoff size mem inserted =>
    let (reply, d) := v4l2LoopbackMmap mem inserted d o pgoff size
    .ok (reply, d, o)
  | .read count w fault => v4l2LoopbackRead w fault d o count
  | .write buf mem fault => (v4l2LoopbackWrite mem fault d buf).map fun (reply, d) => (reply, d, o)
  | .poll =>
    let (reply, d) := v4l2LoopbackPoll d o
    .ok (reply, d, o)

def Driver.init : Driver := ⟨Device.init cfg, ∅⟩

/-- The state a handle is in after a request on it. -/
def Driver.afterRequest (s : Driver) (file : Nat) (d : Device) (o : Opener) : Driver :=
  { s with dev := d, openers := s.openers.insert file o }

/-- One call.  A handle that is open cannot be opened again, and a handle that is
    not open cannot be used. -/
def driverStep (s : Driver) : Call → Except Stop (Reply × Driver)
  | .openDevice file mem kzalloc =>
    match s.openers.lookup file, v4l2LoopbackOpen cfg mem kzalloc s.dev with
    -- a descriptor that is open is not opened again
    | some _, _ => .error .disabled
    | none, (ret, d, none) => .ok (.code ret, { s with dev := d })
    | none, (ret, d, some o) => .ok (.code ret, s.afterRequest file d o)
  | .closeDevice file =>
    match s.openers.lookup file with
    | none => .error .disabled
    | some _ => .ok (.code 0, ⟨v4l2LoopbackClose s.dev, s.openers.erase file⟩)
  | .request file req =>
    match s.openers.lookup file with
    | none => .error .disabled
    | some o =>
      match request cfg s.dev o req with
      | .error f => .error (.fault f)
      | .ok (reply, d, o) => .ok (reply, s.afterRequest file d o)
  | .sustainTimer =>
    -- a timer that is not armed does not fire
    if s.dev.sustainTimer.isSome then .ok (.code 0, { s with dev := s.dev.sustainTimerClb })
    else .error .disabled
  | .timeoutTimer =>
    if s.dev.timeoutTimer.isSome then .ok (.code 0, { s with dev := s.dev.timeoutTimerClb })
    else .error .disabled
  | .storeFormat text len =>
    match attrStoreFormat cfg s.dev text len with
    | .error f => .error (.fault f)
    | .ok (reply, d) => .ok (reply, { s with dev := d })
  | .storeMaxopeners curr len =>
    let (reply, d) := attrStoreMaxopeners s.dev curr len
    .ok (reply, { s with dev := d })

/-- A request that comes back was made on an open handle. -/
theorem driverStep_request {cfg : Config} {s t : Driver} {file : Nat} {req : Request}
    {reply : Reply} (h : driverStep cfg s (.request file req) = .ok (reply, t)) :
    ∃ o d o', s.openers.lookup file = some o ∧ request cfg s.dev o req = .ok (reply, d, o') ∧
      t = s.afterRequest file d o' := by
  simp only [driverStep] at h
  split at h
  · cases h
  · rename_i o hfile
    split at h
    · cases h
    · rename_i hreq
      cases h
      exact ⟨o, _, _, hfile, hreq, rfl⟩

theorem driverStep_of_request {cfg : Config} {s : Driver} {file : Nat} {o o' : Opener} {d : Device}
    {req : Request} {reply : Reply} (hfile : s.openers.lookup file = some o)
    (h : request cfg s.dev o req = .ok (reply, d, o')) :
    driverStep cfg s (.request file req) = .ok (reply, s.afterRequest file d o') := by
  simp only [driverStep, hfile, h]

/-- The state after a call that comes back. -/
def next (s : Driver) (call : Call) : Option Driver :=
  match driverStep cfg s call with
  | .ok (_, t) => some t
  | .error _ => none

/-- The transition relation of the driver. -/
abbrev Step : Driver → Call → Driver → Prop := ofNext (next cfg)

end DroidCam.Loopback
