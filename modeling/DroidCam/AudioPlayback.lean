import DroidCam.Lib.CArith
import DroidCam.Lib.ByteMemory
import Mathlib.Data.PNat.Defs
import Mathlib.Data.List.Infix

/-
  DroidCam/AudioPlayback.lean
  ===========================
  The stream loop of `AudioThreadProc` as far as samples are concerned: a packet
  is decoded to the front of `decode_buf`, and each transfer copies from the front
  to the device and moves the rest down.

  The rest is moved by as many samples as were copied, not by as many as are
  left, so a third transfer may find old samples.  `Window` follows how many of
  the samples in front are still the next ones, from the transfer sizes alone, and
  `playback_faithful_iff` shows that this is exactly what decides.
-/

namespace DroidCam.AudioPlayback

open CArith ByteMemory

/-! ### The stream loop -/

def DROIDCAM_PCM_CHUNK_SAMPLES_2 : Nat := 320

def CHUNKS_PER_PACKET : Nat := 2

/-- `decoder_get_audio_frame_size`: 20 ms of wideband speech. -/
def decoderGetAudioFrameSize : Nat := 320

/-- The samples one packet decodes to. -/
def packetSamples : Nat := CHUNKS_PER_PACKET * DROIDCAM_PCM_CHUNK_SAMPLES_2

structure Packet where
  samples : List Int16
  length_eq : samples.length = packetSamples
deriving DecidableEq

/-- What an iteration of the loop does with `decode_buf`: `period_size` is whatever
    ALSA negotiated, so a transfer may be granted any positive number of frames. -/
inductive AudioAct where
  | packet (p : Packet)
  | transfer (granted : ℕ+)

structure AudioState where
  decodeBuf : Memory Int16
  decodeBufUsed : Int
  -- history: the last packet, what was copied of it, and what was left at each
  -- use of `decoder_speex_plc`
  packet : List Int16
  copied : List Int16
  leftAtPlc : List Nat

/-- The loop is entered with an empty buffer. -/
def AudioState.init (m : Memory Int16) : AudioState where
  decodeBuf := m
  decodeBufUsed := 0
  packet := []
  copied := []
  leftAtPlc := []

/-- `transfer.frames` after the comparison with the frame size, made in `int`. -/
def transferFrames (granted : Nat) : Nat :=
  if toInt32 granted ≥ decoderGetAudioFrameSize then decoderGetAudioFrameSize else granted

def audioStep (s : AudioState) : AudioAct → AudioState
  | .packet p =>
      { s with decodeBuf := write s.decodeBuf 0 p.samples
               decodeBufUsed := (CHUNKS_PER_PACKET * DROIDCAM_PCM_CHUNK_SAMPLES_2 : Nat)
               packet := p.samples, copied := [] }
  | .transfer granted =>
      if s.decodeBufUsed = 0 then
        { s with leftAtPlc := s.leftAtPlc ++ [s.packet.length - s.copied.length] }
      else
        let frames := transferFrames granted
        { s with copied := s.copied ++ read s.decodeBuf 0 frames
                 decodeBuf := write s.decodeBuf 0 (read s.decodeBuf frames frames)
                 decodeBufUsed := toInt32 (s.decodeBufUsed - frames) }

def audioLoop (m : Memory Int16) (as : List AudioAct) : AudioState :=
  as.foldl audioStep (AudioState.init m)

/-! ### What the loop is for -/

/-- The samples copied are the front of the packet, the counter is what is left of it,
    and concealment was used only with nothing left. -/
structure Playing (s : AudioState) : Prop where
  copied : s.copied <+: s.packet
  used : s.decodeBufUsed = s.packet.length - s.copied.length
  concealed : ∀ n ∈ s.leftAtPlc, n = 0

/-- An event without its samples. -/
inductive Shape where
  | packet
  | transfer (granted : ℕ+)
deriving DecidableEq

def AudioAct.shape : AudioAct → Shape
  | .packet _ => .packet
  | .transfer granted => .transfer granted

/-- How many samples in front of `decode_buf` are the next ones of the packet, and how
    many are left to copy. -/
structure Window where
  valid : Nat
  left : Nat
deriving DecidableEq, Repr

/-- A transfer needs its samples in the window, and leaves of it what the move brings to
    the front; `none` when it needs more. -/
def Window.next (w : Window) : Shape → Option Window
  | .packet => some ⟨packetSamples, packetSamples⟩
  | .transfer granted =>
      let frames := transferFrames granted
      if w.left = 0 then some w
      else if frames ≤ w.valid then some ⟨min frames (w.valid - frames), w.left - frames⟩
      else none

def windowAfter : List Shape → Option Window
  | shapes => shapes.foldl (fun w shape => w.bind fun w => w.next shape) (some ⟨0, 0⟩)

theorem windowAfter_append_singleton (shapes : List Shape) (shape : Shape) :
    windowAfter (shapes ++ [shape]) = (windowAfter shapes).bind fun w => w.next shape := by
  simp [windowAfter, List.foldl_append]

theorem audioLoop_append_singleton (m : Memory Int16) (as : List AudioAct) (a : AudioAct) :
    audioLoop m (as ++ [a]) = audioStep (audioLoop m as) a := by
  simp [audioLoop, List.foldl_append]

/-- A front of a sequence that keeps to its window keeps to it. -/
theorem windowAfter_isSome_mono {shapes shapes' : List Shape} (h : shapes <+: shapes')
    (hsome : (windowAfter shapes').isSome) : (windowAfter shapes).isSome := by
  obtain ⟨rest, rfl⟩ := h
  induction rest using List.reverseRecOn with
  | nil => simpa using hsome
  | append_singleton rest shape ih =>
      rw [← List.append_assoc, windowAfter_append_singleton] at hsome
      apply ih
      cases hw : windowAfter (shapes ++ rest) with
      | none => simp [hw] at hsome
      | some w => rfl

/-! ### The window is enough

After a transfer of n samples the memmove brings the next n to the front, so of the
samples that are left only so many are in place. While no transfer takes more than
these, all is well. -/

/-- The window holds what it should. -/
structure Windowed (w : Window) (s : AudioState) : Prop where
  playing : Playing s
  left : s.packet.length = s.copied.length + w.left
  size : s.packet.length ≤ packetSamples
  fits : w.valid ≤ w.left
  front : read s.decodeBuf 0 w.valid = (s.packet.drop s.copied.length).take w.valid

theorem Windowed.init (m : Memory Int16) : Windowed ⟨0, 0⟩ (AudioState.init m) where
  playing := ⟨List.prefix_refl _, rfl, by simp [AudioState.init]⟩
  left := rfl
  size := Nat.zero_le _
  fits := le_refl _
  front := rfl

/-- A copy that is not cut to the frame size is smaller than it, or larger than any
    packet. -/
theorem transferFrames_le {granted : Nat} (h : transferFrames granted ≤ packetSamples) :
    transferFrames granted ≤ 320 := by
  unfold transferFrames at *
  split
  · exact le_refl _
  · rename_i hlt
    rw [if_neg hlt] at h
    have hsmall : (granted : Int) ≤ 640 := Int.ofNat_le.mpr h
    rw [toInt32_of_fits (by omega) (by omega)] at hlt
    simp only [decoderGetAudioFrameSize] at hlt
    omega

/-- `memmove` brings the second half of a window to its front. -/
theorem read_move {α : Type*} {m : Memory α} {n v : Nat} {l : List α}
    (h : read m 0 (n + v) = l.take (n + v)) (hlen : n + v ≤ l.length) (hv : v ≤ n) :
    read m 0 n = l.take n ∧ read (write m 0 (read m n n)) 0 v = (l.drop n).take v := by
  rw [read_add, List.take_add] at h
  have hsplit := List.append_inj h (by simp; omega)
  refine ⟨hsplit.1, ?_⟩
  have hself := read_write_self m 0 (read m n n)
  rw [length_read] at hself
  rw [← take_read _ 0 hv, hself, take_read m n hv]
  simpa using hsplit.2

theorem Windowed.transfer {w w' : Window} {s : AudioState} {granted : ℕ+} (hs : Windowed w s)
    (hw : w.next (.transfer granted) = some w') :
    Windowed w' (audioStep s (.transfer granted)) := by
  obtain ⟨⟨hcopied, hused, hconcealed⟩, hleft, hsize, hfits, hfront⟩ := hs
  simp only [Window.next] at hw
  -- nothing is left, and concealment does not touch the buffer
  by_cases hzero : w.left = 0
  · rw [if_pos hzero] at hw
    obtain rfl : w = w' := by simpa using hw
    have hempty : s.decodeBufUsed = 0 := by omega
    simp only [audioStep, if_pos hempty]
    refine ⟨⟨hcopied, hused, ?_⟩, hleft, hsize, hfits, hfront⟩
    intro n hn
    rcases List.mem_append.mp hn with hn | hn
    · exact hconcealed n hn
    · have := List.mem_singleton.mp hn
      omega
  · rw [if_neg hzero] at hw
    split at hw
    · rename_i hneed
      obtain rfl : _ = w' := by simpa using hw
      have hnonempty : s.decodeBufUsed ≠ 0 := by omega
      simp only [audioStep, if_neg hnonempty]
      clear hw
      generalize transferFrames granted = n at hneed ⊢
      have hrest : (s.packet.drop s.copied.length).length = w.left := by
        rw [List.length_drop]; omega
      -- what is copied now and what the memmove brings forward lie in the window
      have hwindow : n + min n (w.valid - n) ≤ w.valid := by omega
      have hread : read s.decodeBuf 0 (n + min n (w.valid - n)) =
          (s.packet.drop s.copied.length).take (n + min n (w.valid - n)) := by
        rw [← take_read _ 0 hwindow, hfront, List.take_take, Nat.min_eq_left hwindow]
      obtain ⟨hout, hmoved⟩ := read_move hread (by omega) (Nat.min_le_left _ _)
      have hlength : (s.copied ++ read s.decodeBuf 0 n).length = s.copied.length + n := by simp
      have htake : s.copied ++ read s.decodeBuf 0 n = s.packet.take (s.copied.length + n) := by
        rw [hout, List.take_add, ← List.prefix_iff_eq_take.mp hcopied]
      have hfits' : min n (w.valid - n) ≤ w.left - n := by omega
      have hused' : s.decodeBufUsed - n = ((w.left - n : Nat) : Int) := by omega
      have hpacket : packetSamples = 640 := rfl
      have hsmall : ((w.left - n : Nat) : Int) < 2147483648 := by omega
      refine ⟨⟨?_, ?_, hconcealed⟩, ?_, hsize, hfits', ?_⟩
      · rw [htake]
        exact List.take_prefix _ _
      · show toInt32 (s.decodeBufUsed - n) = s.packet.length - (s.copied ++ _).length
        rw [hlength, hused', toInt32_of_fits (by omega) hsmall]
        omega
      · show s.packet.length = (s.copied ++ _).length + (w.left - n)
        omega
      · show read _ 0 _ = (s.packet.drop (s.copied ++ _).length).take _
        rw [hlength, ← List.drop_drop]
        exact hmoved
    · cases hw

theorem Windowed.step {w w' : Window} {s : AudioState} {a : AudioAct} (hs : Windowed w s)
    (hw : w.next a.shape = some w') : Windowed w' (audioStep s a) := by
  cases a with
  | transfer granted => exact hs.transfer hw
  | packet p =>
      obtain rfl : _ = w' := by simpa [Window.next, AudioAct.shape] using hw
      have hself := read_write_self s.decodeBuf 0 p.samples
      rw [p.length_eq] at hself
      refine ⟨⟨List.nil_prefix, ?_, hs.playing.concealed⟩, ?_, ?_, le_refl _, ?_⟩
      · simp [audioStep, p.length_eq, packetSamples]
      · simp [audioStep, p.length_eq]
      · simp [audioStep, p.length_eq]
      · simp only [audioStep, hself, List.length_nil, List.drop_zero]
        rw [← p.length_eq, List.take_length]

/-- Along events that keep to the window, whatever the samples. -/
theorem Windowed.run (m : Memory Int16) {as : List AudioAct} {w : Window}
    (h : windowAfter (as.map AudioAct.shape) = some w) : Windowed w (audioLoop m as) := by
  induction as using List.reverseRecOn generalizing w with
  | nil =>
      obtain rfl : _ = w := by simpa [windowAfter] using h
      exact Windowed.init m
  | append_singleton as a ih =>
      rw [List.map_append, List.map_singleton, windowAfter_append_singleton] at h
      obtain ⟨v, hv, hw⟩ := Option.bind_eq_some_iff.mp h
      rw [audioLoop_append_singleton]
      exact (ih hv).step hw

/-! ### The window is needed

Packets of samples that all differ show the first sample that is out of place. What lies
behind the window there is older than what should be there. -/

/-- A packet of all different samples. -/
def rampPacket : Packet where
  samples := (List.range packetSamples).map fun j => Int16.ofNat j
  length_eq := by simp

def Shape.ramp : Shape → AudioAct
  | .packet => .packet rampPacket
  | .transfer granted => .transfer granted

theorem Int16.ofNat_injective {a b : Nat} (ha : a < 32768) (hb : b < 32768)
    (h : Int16.ofNat a = Int16.ofNat b) : a = b := by
  have hint := congrArg Int16.toInt h
  rw [Int16.toInt_ofNat_of_lt ha, Int16.toInt_ofNat_of_lt hb] at hint
  exact Int.ofNat.inj hint

/-- In a loop fed with ramps, `decode_buf[j]` holds sample `source j`, which lags behind
    the one it should be exactly beyond the window. -/
def Lagging (w : Window) (s : AudioState) : Prop :=
  w.left ≠ 0 → s.packet = rampPacket.samples ∧
    ∃ source : Nat → Nat, ∀ j < packetSamples, s.decodeBuf j = Int16.ofNat (source j) ∧
      source j ≤ s.copied.length + j ∧ (source j = s.copied.length + j ↔ j < w.valid)

theorem Lagging.packet {w : Window} {s : AudioState} (hw : w.valid = packetSamples)
    (hpacket : s.packet = rampPacket.samples) (hcopied : s.copied = []) {m : Memory Int16}
    (hbuf : s.decodeBuf = write m 0 rampPacket.samples) : Lagging w s := by
  intro _
  refine ⟨hpacket, id, fun j hj => ⟨?_, ?_, ?_⟩⟩
  · have hlen : j < rampPacket.samples.length := by rw [rampPacket.length_eq]; exact hj
    rw [hbuf, write_zero_inside hlen]
    simp only [rampPacket, List.getElem_map, List.getElem_range, id]
  · exact Nat.le_add_left _ _
  · simpa [hcopied, hw] using hj

/-- The move leaves what lies beyond it where it was, and that falls behind. -/
theorem Lagging.moved {w : Window} {s t : AudioState} {n : Nat} (hs : Lagging w s)
    (hleft : w.left ≠ 0) (hneed : n ≤ w.valid) (hn : n ≤ 320) (hpos : 0 < n)
    (hpacket : t.packet = s.packet) (hcopied : t.copied.length = s.copied.length + n)
    (hbuf : t.decodeBuf = write s.decodeBuf 0 (read s.decodeBuf n n)) :
    Lagging ⟨min n (w.valid - n), w.left - n⟩ t := by
  obtain ⟨hramp, source, hsource⟩ := hs hleft
  intro _
  refine ⟨hpacket.trans hramp, fun j => if j < n then source (n + j) else source j, ?_⟩
  intro j hj
  have hsize : packetSamples = 640 := rfl
  -- moved to the front by the memmove, or where it was before
  by_cases hjn : j < n
  · obtain ⟨hval, hle, hiff⟩ := hsource (n + j) (by omega)
    have hin : write s.decodeBuf 0 (read s.decodeBuf n n) j = s.decodeBuf (n + j : Nat) := by
      have hlen : j < (read s.decodeBuf n n).length := by simpa using hjn
      rw [write_zero_inside hlen, getElem_read, Int.natCast_add]
    simp only [if_pos hjn, hbuf, hin, hcopied]
    refine ⟨hval, by omega, ?_⟩
    rw [Nat.lt_min]
    omega
  · obtain ⟨hval, hle, hiff⟩ := hsource j hj
    have hout : write s.decodeBuf 0 (read s.decodeBuf n n) j = s.decodeBuf j :=
      write_outside (Or.inr (by simp; omega))
    simp only [if_neg hjn, hbuf, hout, hcopied]
    refine ⟨hval, by omega, ?_⟩
    rw [Nat.lt_min]
    omega

theorem transferFrames_pos (granted : ℕ+) : 0 < transferFrames granted := by
  unfold transferFrames decoderGetAudioFrameSize
  split
  · omega
  · exact granted.pos

theorem Lagging.step {w w' : Window} {s : AudioState} {shape : Shape} (hwin : Windowed w s)
    (hs : Lagging w s) (hw : w.next shape = some w') : Lagging w' (audioStep s shape.ramp) := by
  cases shape with
  | packet =>
      obtain rfl : _ = w' := by simpa only [Window.next, Option.some.injEq] using hw
      exact Lagging.packet (m := s.decodeBuf) (by rfl) (by simp only [Shape.ramp, audioStep])
        (by simp only [Shape.ramp, audioStep]) (by simp only [Shape.ramp, audioStep])
  | transfer granted =>
      simp only [Window.next] at hw
      have hused := hwin.playing.used
      have hleft := hwin.left
      -- nothing is left to lag behind
      by_cases hzero : w.left = 0
      · rw [if_pos hzero] at hw
        obtain rfl : w = w' := by simpa using hw
        intro hne
        exact absurd hzero hne
      · rw [if_neg hzero] at hw
        split at hw
        · rename_i hneed
          obtain rfl : _ = w' := by simpa using hw
          have hnonempty : s.decodeBufUsed ≠ 0 := by omega
          have hsize := hwin.size
          have hfits := hwin.fits
          have hframes : transferFrames granted ≤ 320 := transferFrames_le (by omega)
          simp only [Shape.ramp, audioStep, if_neg hnonempty]
          exact hs.moved hzero hneed hframes (transferFrames_pos granted) rfl (by simp) rfl
        · cases hw

/-- **Beyond the window the wrong sample is copied.** -/
theorem not_playing_of_next_eq_none {w : Window} {s : AudioState} {shape : Shape}
    (hwin : Windowed w s) (hs : Lagging w s) (hw : w.next shape = none) :
    ¬ Playing (audioStep s shape.ramp) := by
  cases shape with
  | packet => simp [Window.next] at hw
  | transfer granted =>
      simp only [Window.next] at hw
      -- a packet always fits, and so does a transfer that finds nothing left
      split at hw
      · cases hw
      rename_i hleft
      split at hw
      · cases hw
      rename_i hneed
      intro hplaying
      have hused := hwin.playing.used
      have hcount := hwin.left
      have hsize := hwin.size
      have hnonempty : s.decodeBufUsed ≠ 0 := by omega
      obtain ⟨hpacket, source, hsource⟩ := hs hleft
      have hprefix := hplaying.copied
      simp only [Shape.ramp, audioStep, if_neg hnonempty] at hprefix
      have hlen := hprefix.length_le
      simp only [List.length_append, length_read] at hlen
      have hlast : s.copied.length + w.valid <
          (s.copied ++ read s.decodeBuf 0 (transferFrames granted)).length := by
        simp; omega
      have hsame := hprefix.getElem hlast
      obtain ⟨hval, hle, hiff⟩ := hsource w.valid (by omega)
      -- the sample at the end of the window, as copied and as it is in the packet
      rw [List.getElem_append_right (by omega), getElem_read] at hsame
      simp only [Nat.add_sub_cancel_left, Int.zero_add, hval, hpacket] at hsame
      have hramp : ∀ k (hk : k < rampPacket.samples.length),
          rampPacket.samples[k] = Int16.ofNat k := by
        intro k hk
        simp only [rampPacket, List.getElem_map, List.getElem_range]
      rw [hramp] at hsame
      have hpacketSize : packetSamples = 640 := rfl
      have heq := Int16.ofNat_injective (by omega) (by omega) hsame
      exact absurd (hiff.mp heq) (lt_irrefl _)

theorem Lagging.run (m : Memory Int16) {shapes : List Shape} {w : Window}
    (h : windowAfter shapes = some w) :
    Windowed w (audioLoop m (shapes.map Shape.ramp)) ∧
      Lagging w (audioLoop m (shapes.map Shape.ramp)) := by
  have hshape : ∀ shape : Shape, shape.ramp.shape = shape := fun shape => by cases shape <;> rfl
  induction shapes using List.reverseRecOn generalizing w with
  | nil =>
      obtain rfl : _ = w := by simpa [windowAfter] using h
      exact ⟨Windowed.init m, fun hleft => absurd rfl hleft⟩
  | append_singleton shapes shape ih =>
      rw [windowAfter_append_singleton] at h
      obtain ⟨v, hv, hw⟩ := Option.bind_eq_some_iff.mp h
      obtain ⟨hwin, hlag⟩ := ih hv
      rw [List.map_append, List.map_singleton, audioLoop_append_singleton]
      exact ⟨hwin.step (by rwa [hshape]), hlag.step hwin hw⟩

/-- Events that leave the window have a first one that does. -/
theorem exists_first_beyond {shapes : List Shape} (h : windowAfter shapes = none) :
    ∃ front shape w, front ++ [shape] <+: shapes ∧ windowAfter front = some w ∧
      w.next shape = none := by
  induction shapes using List.reverseRecOn with
  | nil => simp [windowAfter] at h
  | append_singleton shapes shape ih =>
      rw [windowAfter_append_singleton] at h
      cases hw : windowAfter shapes with
      | none =>
          obtain ⟨front, shape', w, hprefix, hfront, hnext⟩ := ih hw
          exact ⟨front, shape', w, hprefix.trans (List.prefix_append _ _), hfront, hnext⟩
      | some w =>
          rw [hw, Option.bind_some] at h
          exact ⟨shapes, shape, w, List.prefix_refl _, hw, h⟩

/-- **Playback is faithful exactly when every transfer keeps to the window.**  For the
    transfer sizes of a whole run: the samples copied are those of the packet in
    order, counted right and concealed only at its end, whatever the packets
    contain, if and only if no transfer needs more than the moves have left in
    front. -/
theorem playback_faithful_iff (m : Memory Int16) (shapes : List Shape) :
    (∀ as : List AudioAct, as.map AudioAct.shape <+: shapes → Playing (audioLoop m as)) ↔
      (windowAfter shapes).isSome := by
  constructor
  · intro h
    by_contra hnone
    obtain ⟨front, shape, w, hprefix, hfront, hnext⟩ :=
      exists_first_beyond (Option.not_isSome_iff_eq_none.mp hnone)
    obtain ⟨hwin, hlag⟩ := Lagging.run m hfront
    have hshapes : ∀ l : List Shape, (l.map Shape.ramp).map AudioAct.shape = l := by
      intro l
      rw [List.map_map]
      exact List.map_id'' (fun shape => by cases shape <;> rfl) l
    have hplaying := h ((front ++ [shape]).map Shape.ramp) (by rwa [hshapes])
    rw [List.map_append, List.map_singleton, audioLoop_append_singleton] at hplaying
    exact not_playing_of_next_eq_none hwin hlag hnext hplaying
  · intro hsome as hprefix
    obtain ⟨w, hw⟩ := Option.isSome_iff_exists.mp (windowAfter_isSome_mono hprefix hsome)
    exact (Windowed.run m hw).playing

example : (windowAfter [.packet, .transfer 320, .transfer 160, .transfer 160]).isSome := by decide

/-- Three transfers of one sample: the third repeats the second. -/
theorem playback_repeats :
    ¬ ∀ as : List AudioAct, Playing (audioLoop (fun _ => 0) as) := by
  intro h
  have hcopied : (audioLoop (fun _ => 0) [.packet rampPacket, .transfer 1, .transfer 1,
      .transfer 1]).copied = [0, 1, 1] := by decide +kernel
  have hpacket : (audioLoop (fun _ => 0) [.packet rampPacket, .transfer 1, .transfer 1,
      .transfer 1]).packet.take 3 = [0, 1, 2] := by decide +kernel
  have hprefix := (h [.packet rampPacket, .transfer 1, .transfer 1, .transfer 1]).copied
  rw [hcopied] at hprefix
  have htake := List.prefix_iff_eq_take.mp hprefix
  exact absurd (htake.trans hpacket) (by decide)

end DroidCam.AudioPlayback
