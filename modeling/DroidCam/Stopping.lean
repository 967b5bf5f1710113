import Mathlib.Data.Fintype.EquivFin
import DroidCam.AudioSession
import DroidCam.BatteryThread
import DroidCam.VideoThreadMoves

/-
  DroidCam/Stopping.lean
  ======================
  The threads of the client side by side, and `Stop`, which clears the two flags and
  joins every thread.

  The video and the decode thread are those of `VideoThreads`, the audio thread that of
  `AudioSession`, the battery thread that of `BatteryThread`.  They run interleaved and
  have `v_running` and `a_running` in common; what else a thread reads is answered by
  the environment.
-/

namespace DroidCam.Stopping

open Connection Descriptors LabelledRun
open AudioSession (AudioState AudioPc audioStep)
open BatteryThread (BatteryState BatteryPc batteryStep BATTERY_REQ)
open VideoThreads (VideoState VideoPc DecodePc ProcessPoint VideoAct DecodeAct VideoMove DecodeMove
  videoStep decodeStep decoderCleanup)

variable {numFrames : Nat}

/-! ### The client -/

structure Client (numFrames : Nat) where
  aRunning : Bool
  /-- With `v_running`. -/
  video : VideoState numFrames
  audio : AudioState
  battery : BatteryState

/-- No thread has been started yet. -/
def Client.init (numFrames : Nat) (fd : Int) (dec : JpgDecoder.JpgDecCtx) : Client numFrames where
  aRunning := false
  video := VideoState.init numFrames fd dec
  audio := { AudioState.init with pc := .returned }
  battery := { BatteryState.init [] with pc := .ended }

/-- `v_running || a_running`. -/
def Client.running (s : Client numFrames) : Bool := s.video.vRunning || s.aRunning

/-- Every `g_thread_join` returns. -/
structure Joined (s : Client numFrames) : Prop where
  video : s.video.vpc = .ended
  decode : s.video.dpc = .ended
  audio : s.audio.pc = .returned
  battery : s.battery.pc = .ended

instance (s : Client numFrames) : Decidable (Joined s) :=
  decidable_of_iff (s.video.vpc = .ended ∧ s.video.dpc = .ended ∧ s.audio.pc = .returned ∧
      s.battery.pc = .ended)
    ⟨fun h => ⟨h.1, h.2.1, h.2.2.1, h.2.2.2⟩, fun h => ⟨h.video, h.decode, h.audio, h.battery⟩⟩

/-- What `Start` finds: the wifi server, or a phone that has been connected to, with the
    settings for audio and video and the descriptors that are open. -/
inductive Mode where
  | server
  | phone (stream : List UInt8) (audio video : Bool) (held : List Int)

inductive Act where
  | video (a : VideoAct)
  | decode (a : DecodeAct)
  | audio (a : AudioSession.Answer)
  | battery (a : BatteryThread.Answer)
  | stop
  | start (m : Mode)

/-- The steps of the threads; while `Stop` joins there are no others. -/
def Act.OfThread : Act → Prop
  | .stop | .start _ => False
  | _ => True

/-- The audio thread reads the flags as they are. -/
def Client.agreesAudio (s : Client numFrames) (a : AudioSession.Answer) : Bool :=
  match s.audio.pc, a with
  | .waitVideo, .flag b => b == s.video.vRunning
  | .waitRunning, .flag b | .streamTest, .flag b => b == s.aRunning
  | _, _ => true

def Client.agreesBattery (s : Client numFrames) : BatteryThread.Answer → Bool
  | .running b => b == s.running
  | _ => true

/-- The video thread gets the socket; without video it is closed. -/
def Client.start (s : Client numFrames) : Mode → Option (Client numFrames)
  | .server => (VideoThreads.next s.video (.start none)).map fun v => { s with video := v }
  | .phone stream audio video held =>
      if audio ∨ video then
        (if video then VideoThreads.next s.video (.start (some stream)) else some s.video).map
          fun v =>
            { s with
              video := v
              aRunning := s.aRunning || audio
              audio := if audio then AudioState.init else s.audio
              battery := BatteryState.init held }
      else none

variable (strerror : Errno → String)

def clientStep (s : Client numFrames) : Act → Option (Client numFrames)
  | .video a => (videoStep s.video a).map fun v => { s with video := v }
  | .decode a => (decodeStep s.video a).map fun v => { s with video := v }
  | .audio a =>
      if s.agreesAudio a then (audioStep strerror s.audio a).map fun t => { s with audio := t }
      else none
  | .battery a =>
      if s.agreesBattery a then
        (batteryStep strerror s.battery a).map fun t => { s with battery := t }
      else none
  | .stop => some { s with video := { s.video with vRunning := false }, aRunning := false }
  | .start m => if Joined s then s.start m else none

abbrev Step : Client numFrames → Act → Client numFrames → Prop := ofNext (clientStep strerror)

/-! ### What is left of a thread

A natural number for each program counter, which comes down with every step the thread
makes once the flags are off. -/

/-- The steps that the video thread has left at most once `v_running` is off. -/
def videoRank : VideoPc numFrames → Nat
  | .ended | .crash => 0
  | .cleanup todo => 1 + todo.length
  | .earlyOut _ => 10
  | .loop => 11
  | .pushReceive _ | .pushDecode _ => 12
  | .pushLimit _ => 13
  | .push _ => 14
  | .payload _ => 15
  | .length _ => 16
  | .pull => 17
  | .command => 18
  | .prepareFrames todo => 12 + todo.length
  | .prepareSwc => 13 + numFrames
  | .prepareWebcamBuf => 14 + numFrames
  | .prepareDecodeBuf => 15 + numFrames
  | .prepareInBuf => 16 + numFrames
  | .prepareTjXform => 17 + numFrames
  | .prepareTj => 18 + numFrames
  | .prepareHeader => 19 + numFrames
  | .header => 20 + numFrames
  | .request => 21 + numFrames
  | .serverWait => 22 + numFrames

def decodeRank : DecodePc numFrames → Nat
  | .ended => 0
  | .loop => 1
  | .push _ => 2
  | .process _ .write => 3
  | .process _ .scale => 4
  | .process _ .decompress => 5
  | .process _ .transform => 6
  | .process _ .header => 7
  | .pull => 8

/-- Three tries of twelve packets each, then TCP. -/
def audioRank : AudioPc → Nat
  | .returned => 0
  | .earlyOut => 1
  | .streamTest => 2
  | .stream | .transferCommit => 3
  | .transferCheck | .recvHeader => 4
  | .streamRecv | .sendRequest => 5
  | .tcpOnly => 6
  | .udpTry tries => 7 + 14 * (3 - tries)
  | .udpPoll tries i => 8 + 14 * (2 - tries) + (12 - i)
  | .createUdp => 50
  | .chooseAdb => 51
  | .chooseIos => 52
  | .waitRunning => 1
  | .waitActive | .waitVideo => 53
  | .prepareAudio => 54

def batteryRank (s : BatteryState) : Nat :=
  match s.pc with
  | .ended | .faulted => 0
  | .whileTest => 1
  | .pause => 2
  | .loop => 3
  | .recvAll => 4
  | .send => 4 + s.unsent.length
  | .getConnection => 5 + BATTERY_REQ.length
  | .active => 6 + BATTERY_REQ.length

def Client.rank (s : Client numFrames) : Nat :=
  videoRank s.video.vpc + decodeRank s.video.dpc + audioRank s.audio.pc + batteryRank s.battery

/-! ### One step with the flags off -/

/-- Every move of the video thread stays below the rank of its start, and behind `Stop` it
    comes down. -/
theorem videoRank_move {s t : VideoState numFrames} {a : VideoAct} (h : VideoMove s a t) :
    (videoRank s.vpc ≤ 22 + numFrames → videoRank t.vpc ≤ 22 + numFrames) ∧
      (s.vRunning = false → videoRank t.vpc < videoRank s.vpc) := by
  cases h with
  | request ok hpc | prepareTj ok hpc | prepareTjXform ok hpc =>
      cases ok <;> simp only [videoRank, hpc, if_pos, Bool.false_eq_true, if_false] <;> omega
  | header ret bs hpc hrecv =>
      dsimp only
      split <;> simp only [videoRank, hpc] <;> omega
  | prepareHeader w h pc hpc hw hh hnext | prepareDecodeBuf ok pc hpc hnext =>
      rcases hnext with rfl | rfl <;> simp [videoRank, hpc] <;> omega
  | prepareFrame i todo hpc =>
      simp only [videoRank, hpc, List.length_cons]
      omega
  -- the test of `v_running`, which sends the thread to the exit
  | loop hpc =>
      cases hrunning : s.vRunning <;> simp [videoRank, hpc] <;> omega
  | push f hpc | pushLimit f hpc =>
      dsimp only
      split <;> simp [videoRank, hpc] <;> omega
  | cleanup c todo hpc =>
      simp only [videoRank, hpc, List.length_cons]
      omega
  | earlyOut f hpc =>
      simp [videoRank, hpc, decoderCleanup]
      omega
  -- the one step back to the top, which a server takes only while `v_running` is on
  | finish hpc =>
      cases hrunning : s.vRunning <;> cases s.keepWaiting <;> simp [videoRank, hpc]
  | _ => simp [videoRank, *] <;> omega

theorem videoStep_frame {s t : VideoState numFrames} {a : VideoAct} (h : VideoMove s a t) :
    t.vRunning = s.vRunning ∧ t.dpc = s.dpc := by
  cases h
  case cleanup c todo hpc => cases c <;> exact ⟨rfl, rfl⟩
  all_goals exact ⟨rfl, rfl⟩

theorem decodeRank_move {s t : VideoState numFrames} {a : DecodeAct} (h : DecodeMove s a t)
    (hoff : s.vRunning = false) : decodeRank t.dpc < decodeRank s.dpc := by
  cases h with
  | transform ok out f hpc | decompress ok f hpc =>
      cases ok <;> simp [decodeRank, hpc]
  | _ => simp [decodeRank, *]

theorem decodeRank_le (pc : DecodePc numFrames) : decodeRank pc ≤ 8 := by
  unfold decodeRank
  split <;> decide

theorem audioRank_le (pc : AudioPc) : audioRank pc ≤ 54 := by
  unfold audioRank
  split <;> omega

/-- The flags that the audio thread reads are off. -/
def AudioOff (s : AudioState) (a : AudioSession.Answer) : Prop :=
  s.pc = .waitVideo ∨ s.pc = .waitRunning ∨ s.pc = .streamTest → a = .flag false

theorem audioRank_lt {s t : AudioState} {a : AudioSession.Answer}
    (h : audioStep strerror s a = some t) (hoff : AudioOff s a) :
    audioRank t.pc < audioRank s.pc := by
  unfold audioStep at h
  split at h
  case h_1 handle hpc =>
    cases h
    cases handle <;> simp [audioRank, hpc]
  -- the loop before the connection: with `v_running` off it is left
  case h_2 vRunning hpc =>
    cases hoff (Or.inl hpc)
    cases h
    simp [audioRank, hpc]
  case h_3 vActive hpc =>
    cases h
    cases vActive <;> simp [audioRank, hpc]
  case h_4 aRunning hpc =>
    cases hoff (Or.inr (Or.inl hpc))
    cases h
    simp [audioRank, hpc]
  case h_5 b hpc | h_6 b hpc =>
    cases h
    cases b <;> simp [audioRank, hpc]
  case h_7 r hpc =>
    split at h
    · cases h
    · cases h
      simp only [AudioState.createUdpSocket]
      split <;> simp [audioRank, hpc]
  case h_8 tries hpc =>
    split at h
    · cases h
      simp only [audioRank, hpc]
      omega
    · cases h
      simp only [audioRank, hpc]
      omega
  case h_9 tries i len hpc =>
    cases h
    simp only [AudioState.udpPoll]
    split_ifs
    all_goals
      simp only [audioRank, hpc]
      omega
  case h_10 p hpc =>
    split at h
    · cases h
      simp only [AudioState.tcpOnly]
      split <;> simp [audioRank, hpc]
    · cases h
  case h_11 n hpc =>
    cases h
    simp only [hpc]
    split <;> simp [audioRank]
  case h_12 len buf hpc =>
    cases h
    simp only [hpc]
    split_ifs <;> simp [audioRank]
  case h_13 hpc =>
    cases h
    simp [audioRank, hpc]
  case h_14 aRunning hpc =>
    cases hoff (Or.inr (Or.inr hpc))
    cases h
    simp [audioRank, hpc]
  case h_15 len hpc =>
    cases h
    simp only [hpc]
    split <;> simp [audioRank]
  case h_16 err hpc =>
    cases h
    simp only [hpc]
    split_ifs <;> simp [audioRank]
  case h_17 err hpc =>
    split at h
    all_goals
      cases h
      simp [audioRank, hpc]
  case h_18 hpc =>
    cases h
    simp [audioRank, AudioState.earlyOut, hpc]
  case h_19 => cases h

theorem batteryRank_lt {s t : BatteryState} {a : BatteryThread.Answer}
    (h : batteryStep strerror s a = some t) (hoff : a ≠ .running true) :
    batteryRank t < batteryRank s := by
  unfold batteryStep at h
  split at h
  case h_1 b hpc =>
    cases h
    obtain rfl : b = false := Bool.eq_false_iff.mpr fun hb => hoff (hb ▸ rfl)
    simp [batteryRank, hpc]
  case h_2 b hpc =>
    cases h
    cases b
    · simp only [batteryRank, hpc, Bool.false_eq_true, if_false]
      omega
    · simp [batteryRank, hpc]
  case h_3 p hpc =>
    split at h
    · cases h
      simp only [batteryRank, BatteryState.connected, hpc]
      split_ifs <;> dsimp only <;> omega
    · cases h
  case h_4 w hpc =>
    split at h
    · cases h
      simp only [batteryRank, hpc]
      omega
    · split at h
      · cases h
        simp only [batteryRank, BatteryState.sends, hpc]
        split_ifs
        · dsimp only
          omega
        · simp only [List.length_drop]
          omega
      · cases h
  case h_5 cs hpc =>
    split at h
    · cases h
      simp only [BatteryState.receives]
      split <;> simp [batteryRank, hpc]
    · cases h
  case h_6 hpc =>
    cases h
    simp [batteryRank, hpc]
  case h_7 hpc =>
    split at h
    · cases h
    · cases h
      simp [batteryRank, hpc]
  case h_8 b hpc =>
    obtain rfl : b = false := Bool.eq_false_iff.mpr fun hb => hoff (hb ▸ rfl)
    split at h
    · cases h
      simp [batteryRank, hpc]
    · cases h
  case h_9 => cases h

/-- At most the request is still to be sent. -/
theorem batteryRank_le {held : List Int} {s : BatteryState} (hs : BatteryThread.Inv held s) :
    batteryRank s ≤ 31 := by
  have hlength := congrArg List.length hs.request
  rw [List.length_append] at hlength
  have hrequest : BATTERY_REQ.length = 25 := rfl
  rw [batteryRank]
  split <;> omega

/-! ### The client with the flags off -/

/-- What `Stop` leaves. -/
def Client.Off (s : Client numFrames) : Prop := s.video.vRunning = false ∧ s.aRunning = false

theorem agreesAudio_off {s : Client numFrames} {a : AudioSession.Answer}
    (hagrees : s.agreesAudio a = true) (hoff : s.Off) {t : AudioState}
    (h : audioStep strerror s.audio a = some t) : AudioOff s.audio a := by
  obtain ⟨hvideo, haudio⟩ := hoff
  rintro (hpc | hpc | hpc)
  all_goals
    cases a with
    | flag b =>
        simp only [Client.agreesAudio, hpc, hvideo, haudio, beq_iff_eq] at hagrees
        rw [hagrees]
    | _ => simp [audioStep, hpc] at h

theorem agreesAudio_of_off {s : Client numFrames} {a : AudioSession.Answer} (hoff : s.Off)
    (h : AudioOff s.audio a) : s.agreesAudio a = true := by
  obtain ⟨hvideo, haudio⟩ := hoff
  unfold Client.agreesAudio
  split
  · rename_i hpc
    cases h (Or.inl hpc)
    simp [hvideo]
  · rename_i hpc
    cases h (Or.inr (Or.inl hpc))
    simp [haudio]
  · rename_i hpc
    cases h (Or.inr (Or.inr hpc))
    simp [haudio]
  · rfl

theorem agreesBattery_of_off {s : Client numFrames} {a : BatteryThread.Answer} (hoff : s.Off)
    (hne : a ≠ .running true) : s.agreesBattery a = true := by
  cases a with
  | running b =>
      have hb : b = false := Bool.eq_false_iff.mpr fun hb => hne (hb ▸ rfl)
      simp [Client.agreesBattery, Client.running, hoff.1, hoff.2, hb]
  | _ => rfl

theorem agreesBattery_off {s : Client numFrames} {a : BatteryThread.Answer}
    (hagrees : s.agreesBattery a = true) (hoff : s.Off) : a ≠ .running true := by
  rintro rfl
  simp [Client.agreesBattery, Client.running, hoff.1, hoff.2] at hagrees

/-- **One step of a thread** leaves the flags off and brings the end nearer. -/
theorem Client.Off.step {s t : Client numFrames} {a : Act} (hoff : s.Off) (ha : a.OfThread)
    (h : Step strerror s a t) : t.Off ∧ t.rank < s.rank := by
  cases a with
  -- the decode thread shares its state with the video thread, so its rank is looked at
  -- as well
  | video a =>
      obtain ⟨v, hv, rfl⟩ := Option.map_eq_some_iff.mp h
      have hmove := VideoThreads.videoStep_move hv
      obtain ⟨hrunning, hdpc⟩ := videoStep_frame hmove
      have hlt := (videoRank_move hmove).2 hoff.1
      refine ⟨⟨hrunning.trans hoff.1, hoff.2⟩, ?_⟩
      simp only [Client.rank, hdpc]
      omega
  | decode a =>
      obtain ⟨v, hv, rfl⟩ := Option.map_eq_some_iff.mp h
      have hmove := VideoThreads.decodeStep_move hv
      have hframe := hmove.frame
      have hlt := decodeRank_move hmove hoff.1
      refine ⟨⟨hframe.vRunning.trans hoff.1, hoff.2⟩, ?_⟩
      simp only [Client.rank, hframe.vpc]
      omega
  | audio a =>
      simp only [Step, ofNext, clientStep] at h
      split at h
      · rename_i hagrees
        obtain ⟨u, hu, rfl⟩ := Option.map_eq_some_iff.mp h
        have hlt := audioRank_lt strerror hu (agreesAudio_off strerror hagrees hoff hu)
        refine ⟨hoff, ?_⟩
        simp only [Client.rank]
        omega
      · cases h
  | battery a =>
      simp only [Step, ofNext, clientStep] at h
      split at h
      · rename_i hagrees
        obtain ⟨u, hu, rfl⟩ := Option.map_eq_some_iff.mp h
        have hlt := batteryRank_lt strerror hu (agreesBattery_off hagrees hoff)
        refine ⟨hoff, ?_⟩
        simp only [Client.rank]
        omega
      · cases h
  | stop => exact absurd ha (by simp [Act.OfThread])
  | start m => exact absurd ha (by simp [Act.OfThread])

/-! ### No thread hangs

A thread that has not ended has a step, whatever it waits for; the answers given here
are only there to show one. -/

theorem video_goes_on {s : VideoState numFrames} (hend : s.vpc ≠ .ended) (hcrash : s.vpc ≠ .crash) :
    ∃ a, (videoStep s a).isSome = true := by
  cases hpc : s.vpc with
  | serverWait =>
      cases hconn : s.connected
      · exact ⟨.accept none, by simp [videoStep, hpc, hconn]⟩
      · exact ⟨.go, by simp [videoStep, hpc, hconn]⟩
  | request => exact ⟨.send false, by simp [videoStep, hpc]⟩
  | header | length f | payload f => exact ⟨.recv 0, by simp [videoStep, hpc, VideoThreads.recvAll]⟩
  | prepareTj | prepareTjXform | prepareInBuf | prepareDecodeBuf | prepareWebcamBuf | prepareSwc =>
      exact ⟨.alloc false, by simp [videoStep, hpc]⟩
  | prepareFrames todo => cases todo <;> exact ⟨.go, by simp [videoStep, hpc]⟩
  | cleanup todo => cases todo <;> exact ⟨.go, by simp [videoStep, hpc]⟩
  | ended => exact absurd hpc hend
  | crash => exact absurd hpc hcrash
  | _ => exact ⟨.go, by simp [videoStep, hpc]⟩

theorem decode_goes_on {s : VideoState numFrames} (hend : s.dpc ≠ .ended) :
    ∃ a, (decodeStep s a).isSome = true := by
  cases hpc : s.dpc with
  | loop | push f => exact ⟨.go, by simp [decodeStep, hpc]⟩
  | pull =>
      refine ⟨.go, ?_⟩
      simp only [decodeStep, hpc]
      split <;> rfl
  | process f point =>
      cases point with
      | header =>
          by_cases hsubsamp : s.decoder.subsamp = 0
          · exact ⟨.tjHeader none, by simp [decodeStep, hpc, hsubsamp]⟩
          · exact ⟨.go, by simp [decodeStep, hpc, hsubsamp]⟩
      | transform =>
          by_cases hop : s.decoder.transformOp = .none
          · exact ⟨.go, by simp [decodeStep, hpc, hop]⟩
          · exact ⟨.tjTransform false [], by simp [decodeStep, hpc, hop]⟩
      | decompress => exact ⟨.tjDecompress false, by simp [decodeStep, hpc]⟩
      | scale | write => exact ⟨.go, by simp [decodeStep, hpc]⟩
  | ended => exact absurd hpc hend

/-- A peer that refuses, with a descriptor that is free. -/
def refusing (fd : Nat) : Peer where
  connection := 0
  usb := ⟨0, fd⟩
  network := { refusingPeer with socket := .value fd }
  errno := 0

theorem exists_free (t : Table) : ∃ fd : Nat, (fd : Int) ∉ t.live := by
  obtain ⟨fd, hfd⟩ := Infinite.exists_notMem_finset (t.live.map Int.toNat).toFinset
  exact ⟨fd, fun hmem => hfd (List.mem_toFinset.mpr (List.mem_map.mpr ⟨fd, hmem, rfl⟩))⟩

theorem exists_fresh (t : Table) : ∃ p : Peer, p.Fresh t := by
  obtain ⟨fd, hfree⟩ := exists_free t
  exact ⟨refusing fd, hfree, hfree⟩

/-- The audio thread goes on, with the flags off where it reads them. -/
theorem audio_goes_on {s : AudioState} (hend : s.pc ≠ .returned) :
    ∃ a, AudioOff s a ∧ (audioStep strerror s a).isSome = true := by
  cases hpc : s.pc with
  | prepareAudio | waitVideo | waitActive | waitRunning | chooseIos | chooseAdb | streamTest =>
      exact ⟨.flag false, fun _ => rfl, by simp [audioStep, hpc]⟩
  | createUdp =>
      obtain ⟨fd, hfree⟩ := exists_free s.table
      exact ⟨.socket (.value fd), by simp [AudioOff, hpc], by simp [audioStep, hpc, hfree]⟩
  | udpTry tries =>
      refine ⟨.go, by simp [AudioOff, hpc], ?_⟩
      simp only [audioStep, hpc]
      split <;> rfl
  | udpPoll tries i => exact ⟨.poll 0, by simp [AudioOff, hpc], by simp [audioStep, hpc]⟩
  | tcpOnly =>
      obtain ⟨p, hfresh⟩ := exists_fresh s.table
      exact ⟨.connection p, by simp [AudioOff, hpc], by simp [audioStep, hpc, hfresh]⟩
  | recvHeader => exact ⟨.header 0 [], by simp [AudioOff, hpc], by simp [audioStep, hpc]⟩
  | sendRequest | streamRecv | transferCheck =>
      exact ⟨.result 0, by simp [AudioOff, hpc], by simp [audioStep, hpc]⟩
  | transferCommit => exact ⟨.result (-1), by simp [AudioOff, hpc], by simp [audioStep, hpc]⟩
  | stream | earlyOut => exact ⟨.go, by simp [AudioOff, hpc], by simp [audioStep, hpc]⟩
  | returned => exact absurd hpc hend

theorem battery_goes_on {s : BatteryState} (hend : s.pc ≠ .ended) (hinside : s.pc ≠ .faulted) :
    ∃ a, a ≠ .running true ∧ (batteryStep strerror s a).isSome = true := by
  cases hpc : s.pc with
  | whileTest => exact ⟨.running false, by simp, by simp [batteryStep, hpc]⟩
  | active => exact ⟨.active false, by simp, by simp [batteryStep, hpc]⟩
  | getConnection =>
      obtain ⟨p, hfresh⟩ := exists_fresh s.table
      exact ⟨.peer p, by simp, by simp [batteryStep, hpc, hfresh]⟩
  | send => exact ⟨.sent 0, by simp, by simp [batteryStep, hpc]⟩
  | recvAll => exact ⟨.response [], by simp, by simp [batteryStep, hpc]⟩
  | loop => exact ⟨.go, by simp, by simp [batteryStep, hpc]⟩
  | pause =>
      by_cases hj : s.j < BatteryThread.PAUSE
      · exact ⟨.running false, by simp, by simp [batteryStep, hpc, hj]⟩
      · exact ⟨.go, by simp, by simp [batteryStep, hpc, hj]⟩
  | ended => exact absurd hpc hend
  | faulted => exact absurd hpc hinside

/-! ### Runs of the client

The rank is bounded before `Stop`, so what is left after it is bounded too. -/

structure Inv (s : Client numFrames) : Prop where
  video : videoRank s.video.vpc ≤ 22 + numFrames
  battery : ∃ held, BatteryThread.Inv held s.battery

theorem Inv.init (fd : Int) (dec : JpgDecoder.JpgDecCtx) :
    Inv (Client.init numFrames fd dec) where
  video := Nat.zero_le _
  battery := by
    have hinit := BatteryThread.Inv.init []
    exact ⟨[], hinit.holds, hinit.socket, hinit.request, nofun, hinit.shown, nofun⟩

theorem start_video {s t : VideoState numFrames} {conn : Option (List UInt8)}
    (h : VideoThreads.next s (.start conn) = some t) : t.vpc = .serverWait := by
  simp only [VideoThreads.next] at h
  split at h
  · cases h
    rfl
  · cases h

theorem Inv.step {s t : Client numFrames} {a : Act} (hs : Inv s) (h : Step strerror s a t) :
    Inv t := by
  cases a with
  | video a =>
      obtain ⟨v, hv, rfl⟩ := Option.map_eq_some_iff.mp h
      exact ⟨(videoRank_move (VideoThreads.videoStep_move hv)).1 hs.video, hs.battery⟩
  | decode a =>
      obtain ⟨v, hv, rfl⟩ := Option.map_eq_some_iff.mp h
      have hframe := (VideoThreads.decodeStep_move hv).frame
      exact ⟨hframe.vpc ▸ hs.video, hs.battery⟩
  | audio a =>
      simp only [Step, ofNext, clientStep] at h
      split at h
      · obtain ⟨u, -, rfl⟩ := Option.map_eq_some_iff.mp h
        exact ⟨hs.video, hs.battery⟩
      · cases h
  | battery a =>
      simp only [Step, ofNext, clientStep] at h
      split at h
      · obtain ⟨u, hu, rfl⟩ := Option.map_eq_some_iff.mp h
        obtain ⟨held, hinv⟩ := hs.battery
        exact ⟨hs.video, held, hinv.step strerror hu⟩
      · cases h
  | stop =>
      cases h
      exact ⟨hs.video, hs.battery⟩
  | start m =>
      simp only [Step, ofNext, clientStep] at h
      split at h
      · cases m with
        | server =>
            obtain ⟨v, hv, rfl⟩ := Option.map_eq_some_iff.mp h
            exact ⟨(congrArg videoRank (start_video hv)).le, hs.battery⟩
        | phone stream audio video held =>
            simp only [Client.start] at h
            split at h
            · obtain ⟨v, hv, rfl⟩ := Option.map_eq_some_iff.mp h
              refine ⟨?_, held, BatteryThread.Inv.init held⟩
              cases video with
              | false => exact Option.some.inj hv ▸ hs.video
              | true => exact (congrArg videoRank (start_video hv)).le
            · cases h
      · cases h

theorem Inv.run {fd : Int} {dec : JpgDecoder.JpgDecCtx} {as : List Act} {s : Client numFrames}
    (h : Run (Step strerror) (Client.init numFrames fd dec) as s) : Inv s :=
  Run.invariant (fun _ _ _ hs h => hs.step strerror h) (Inv.init fd dec) h

theorem Inv.rank_le {s : Client numFrames} (hs : Inv s) : s.rank ≤ 115 + numFrames := by
  obtain ⟨held, hbattery⟩ := hs.battery
  have hvideo := hs.video
  have hdecode := decodeRank_le s.video.dpc
  have haudio := audioRank_le s.audio.pc
  have hrank := batteryRank_le hbattery
  rw [Client.rank]
  omega

/-- A client whose threads all stand still has been joined, where the video thread has not
    crashed. -/
theorem Inv.joined {s : Client numFrames} (hs : Inv s) (hoff : s.Off)
    (hcrash : s.video.vpc ≠ .crash) (hstill : ∀ a t, a.OfThread → ¬ Step strerror s a t) :
    Joined s := by
  have hno : ∀ {a : Act}, a.OfThread → (clientStep strerror s a).isSome = false := by
    intro a ha
    by_contra hsome
    obtain ⟨t, ht⟩ := Option.isSome_iff_exists.mp (Bool.eq_true_of_not_eq_false hsome)
    exact hstill a t ha ht
  refine ⟨?_, ?_, ?_, ?_⟩
  · by_contra hend
    obtain ⟨a, ha⟩ := video_goes_on hend hcrash
    have hnot := hno (a := .video a) trivial
    simp [clientStep, ha] at hnot
  · by_contra hend
    obtain ⟨a, ha⟩ := decode_goes_on hend
    have hnot := hno (a := .decode a) trivial
    simp [clientStep, ha] at hnot
  · by_contra hend
    obtain ⟨a, hflags, ha⟩ := audio_goes_on strerror hend
    have hnot := hno (a := .audio a) trivial
    simp [clientStep, ha, agreesAudio_of_off hoff hflags] at hnot
  · by_contra hend
    obtain ⟨held, hinv⟩ := hs.battery
    obtain ⟨a, hne, ha⟩ := battery_goes_on strerror hend hinv.inside
    have hnot := hno (a := .battery a) trivial
    simp [clientStep, ha, agreesBattery_of_off hoff hne] at hnot

/-- What `Start` does not refuse. -/
def Mode.Valid : Mode → Prop
  | .server => True
  | .phone _ audio video _ => audio = true ∨ video = true

/-- `Start` finds what it needs once everything has been joined. -/
theorem start_joined {s : Client numFrames} (hjoined : Joined s) (hoff : s.Off) {m : Mode}
    (hm : m.Valid) : (clientStep strerror s (.start m)).isSome = true := by
  have hnext : ∀ conn, (VideoThreads.next s.video (.start conn)).isSome = true := fun conn => by
    simp [VideoThreads.next, hjoined.video, hjoined.decode, hoff.1]
  rw [clientStep, if_pos hjoined]
  cases m with
  | server => simp [Client.start, hnext]
  | phone stream audio video held =>
      have hasked : audio = true ∨ video = true := hm
      rw [Client.start, if_pos hasked]
      cases video with
      | false => rfl
      | true => simp [hnext]

/-- A thread that has been joined takes no step. -/
theorem Joined.still {s t : Client numFrames} {a : Act} (hjoined : Joined s) (ha : a.OfThread) :
    ¬ Step strerror s a t := by
  intro h
  cases a with
  | video a => simp [Step, ofNext, clientStep, videoStep, hjoined.video] at h
  | decode a => simp [Step, ofNext, clientStep, decodeStep, hjoined.decode] at h
  | audio a => simp [Step, ofNext, clientStep, audioStep, hjoined.audio] at h
  | battery a => simp [Step, ofNext, clientStep, batteryStep, hjoined.battery] at h
  | stop | start => exact ha

/-- **`Stop` joins every thread**, and may then be followed by another `Start`.  In any
interleaving the threads take no more than 115 steps and one for each frame, and they stand
still only when all of them have ended, unless the video thread has crashed. -/
theorem stop_joins {fd : Int} {dec : JpgDecoder.JpgDecCtx} {as bs : List Act}
    {s t : Client numFrames}
    (h : Run (Step strerror) (Client.init numFrames fd dec) (as ++ [.stop]) s)
    (ht : Run (Step strerror) s bs t) (hthreads : ∀ a ∈ bs, a.OfThread) :
    bs.length ≤ 115 + numFrames ∧
      (t.video.vpc ≠ .crash → ((∀ a u, a.OfThread → ¬ Step strerror t a u) ↔ Joined t)) ∧
      (Joined t → ∀ m : Mode, m.Valid → (clientStep strerror t (.start m)).isSome = true) := by
  have hrank := (Inv.run strerror h).rank_le
  have hstop : s.Off := by
    obtain ⟨u, -, hu⟩ := Run.snoc_iff.mp h
    cases hu
    exact ⟨rfl, rfl⟩
  have hdown : ∀ (s : Client numFrames) (a : Act) (t : Client numFrames), s.Off → a.OfThread →
      Step strerror s a t → t.Off ∧ t.rank < s.rank :=
    fun _ _ _ hoff ha hstep => hoff.step strerror ha hstep
  obtain ⟨hoff, hlength⟩ := Run.length_le hdown hstop hthreads ht
  have hinv := Inv.run strerror (h.append ht)
  refine ⟨by omega, fun hcrash => ⟨hinv.joined strerror hoff hcrash, ?_⟩, ?_⟩
  · exact fun hjoined _ _ ha => hjoined.still strerror ha
  · exact fun hjoined m hm => start_joined strerror hjoined hoff hm

/-- A session that is stopped before the phone has been asked for anything. -/
def stoppedEarly : List Act := [.start (.phone [] true true [0, 1, 2]), .video .go, .decode .go]

/-- The phone does not take the request. -/
def windingDown : List Act :=
  [.audio (.flag false), .video (.send false), .decode .go, .decode .go, .battery (.running false)]
    ++ List.replicate 10 (.video .go)

theorem stop_joins_early : ∃ s t : Client 3,
    Run (Step fun _ => "") (Client.init 3 1 (JpgDecoder.decoderInit 320 240))
      (stoppedEarly ++ [.stop]) s ∧
    Run (Step fun _ => "") s windingDown t ∧ windingDown.length ≤ 118 ∧
    (clientStep (fun _ => "") t (.start .server)).isSome = true := by
  obtain ⟨t, ht, hjoined⟩ := Option.map_eq_some_iff.mp
    (by decide +kernel : (execute (clientStep fun _ => "")
      (Client.init 3 1 (JpgDecoder.decoderInit 320 240))
      ((stoppedEarly ++ [.stop]) ++ windingDown)).map (fun t => decide (Joined t)) = some true)
  rw [execute_append, Option.bind_eq_some_iff] at ht
  obtain ⟨s, hs, ht⟩ := ht
  obtain ⟨hlength, -, hstart⟩ := stop_joins (fun _ => "") (Run.of_execute hs) (Run.of_execute ht)
    (by simp [windingDown, Act.OfThread])
  exact ⟨s, t, Run.of_execute hs, Run.of_execute ht, hlength,
    hstart (of_decide_eq_true hjoined) .server trivial⟩

end DroidCam.Stopping
