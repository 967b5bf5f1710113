import DroidCam.AudioPlayback
import DroidCam.Lib.LabelledRun
import Mathlib.Algebra.BigOperators.Group.List.Basic

/-
  DroidCam/AudioStream.lean
  =========================
  The TCP side of the stream loop of `AudioThreadProc`: which bytes a read hands
  to the speex decoder.

  The phone sends packets of two chunks.  The loop keeps nothing of a read for the
  next one: it decodes the last packet's worth of what the read returned, or the
  front of the buffer when the read was shorter.  So every packet decoded is one
  that was sent exactly when the reads end where packets end.
-/

namespace DroidCam.AudioStream

open AudioPlayback ByteMemory LabelledRun

/-! ### The stream loop -/

def DROIDCAM_SPX_CHUNK_BYTES_2 : Nat := 70

def STREAM_BUF_SIZE : Nat := DROIDCAM_SPX_CHUNK_BYTES_2 * 6

def bytesPerPacket : Nat := CHUNKS_PER_PACKET * DROIDCAM_SPX_CHUNK_BYTES_2

/-- One packet as the phone sends it. -/
structure SpeexPacket where
  bytes : List UInt8
  length_eq : bytes.length = bytesPerPacket
deriving DecidableEq

/-- One call of `decode_speex_frame`: the read it follows started at byte `start` of
    the stream and returned `len` bytes, and it is handed `&stream_buf[idx]`. -/
structure Decoded where
  start : Nat
  len : Nat
  idx : Nat
  block : List UInt8
deriving DecidableEq, Repr

structure StreamState where
  aActive : Bool
  streamBuf : Memory UInt8
  /-- What the peer has sent and `recv` has not returned yet. -/
  socket : List UInt8
  -- history
  received : Nat
  decoded : List Decoded

/-- The loop is entered behind the header, with any old bytes in the buffer. -/
def StreamState.init (m : Memory UInt8) (packets : List SpeexPacket) : StreamState where
  aActive := true
  streamBuf := m
  socket := packets.flatMap (·.bytes)
  received := 0
  decoded := []

/-- The bytes that `decode_speex_frame` reads, chunk by chunk. -/
def decodeSpeexFrame (streamBuf : Memory UInt8) (idx : Nat) : List UInt8 :=
  (List.range CHUNKS_PER_PACKET).flatMap fun i =>
    read streamBuf (idx + i * DROIDCAM_SPX_CHUNK_BYTES_2 : Nat) DROIDCAM_SPX_CHUNK_BYTES_2

/-- More than a packet is cut down to the latest one. -/
def packetIndex (len : Nat) : Nat := if len > bytesPerPacket then len - bytesPerPacket else 0

/-- One turn of the loop; `len` is what `RecvNonBlock` returns. -/
def streamStep (s : StreamState) (len : Int) : Option StreamState :=
  if s.aActive = false ∨ len < -1 ∨ len > STREAM_BUF_SIZE ∨ len > s.socket.length then none
  else if len < 0 then some { s with aActive := false }
  else
    let n := len.toNat
    let s' := { s with
      streamBuf := write s.streamBuf 0 (s.socket.take n)
      socket := s.socket.drop n
      received := s.received + n }
    if len > 0 then
      let idx := packetIndex n
      some { s' with
        decoded := s.decoded ++ [⟨s.received, n, idx, decodeSpeexFrame s'.streamBuf idx⟩] }
    else some s'

abbrev Step : StreamState → Int → StreamState → Prop := ofNext streamStep

/-! ### What the decoder should get

A packet is what the phone has sent as one. TCP keeps no boundaries, so where a read
ends is for the network to say. -/

/-- The block is packet `k` of those sent, it lies on the packet's bytes of the
    stream, and all of it was returned by the read. -/
structure WholePacket (packets : List SpeexPacket) (d : Decoded) (k : Nat) : Prop where
  aligned : d.start + d.idx = k * bytesPerPacket
  inside : d.idx + bytesPerPacket ≤ d.len
  sent : packets[k]?.map (·.bytes) = some d.block

/-- Whole packets, in sending order and none of them twice. -/
def Faithful (packets : List SpeexPacket) (decoded : List Decoded) : Prop :=
  ∃ ks : List Nat, ks.Pairwise (· < ·) ∧ List.Forall₂ (WholePacket packets) decoded ks

/-! ### Reads -/

/-- What a turn of the loop does. -/
inductive StreamMove (s : StreamState) : Int → StreamState → Prop
  | failed : StreamMove s (-1) { s with aActive := false }
  | nothing : StreamMove s 0 s
  | read (n : Nat) (hpos : 0 < n) (havailable : n ≤ s.socket.length) :
      StreamMove s n { s with
        streamBuf := write s.streamBuf 0 (s.socket.take n)
        socket := s.socket.drop n
        received := s.received + n
        decoded := s.decoded ++ [⟨s.received, n, packetIndex n,
          decodeSpeexFrame (write s.streamBuf 0 (s.socket.take n)) (packetIndex n)⟩] }

theorem Step.move {s t : StreamState} {len : Int} (h : Step s len t) : StreamMove s len t := by
  simp only [ofNext, streamStep] at h
  split at h
  · cases h
  · rename_i hresult
    simp only [not_or, Int.not_lt] at hresult
    obtain ⟨-, hlow, -, havailable⟩ := hresult
    split at h
    · rename_i hneg
      obtain rfl : len = -1 := by omega
      cases h
      exact .failed
    · rename_i hnonneg
      obtain ⟨n, rfl⟩ := Int.eq_ofNat_of_zero_le (Int.not_lt.mp hnonneg)
      simp only [Int.toNat_natCast] at h
      split at h
      · rename_i hpos
        cases h
        exact .read n (by omega) (by omega)
      · rename_i hzero
        obtain rfl : n = 0 := by omega
        cases h
        simp only [List.take_zero, write_nil, List.drop_zero, Nat.add_zero]
        exact .nothing

theorem decodeSpeexFrame_eq (m : Memory UInt8) (idx : Nat) :
    decodeSpeexFrame m idx = read m idx bytesPerPacket := by
  have hpacket : bytesPerPacket = DROIDCAM_SPX_CHUNK_BYTES_2 + DROIDCAM_SPX_CHUNK_BYTES_2 := rfl
  have hchunks : List.range CHUNKS_PER_PACKET = [0, 1] := rfl
  rw [decodeSpeexFrame, hchunks, hpacket, read_add]
  simp

theorem length_flatMap_bytes (packets : List SpeexPacket) :
    (packets.flatMap (·.bytes)).length = packets.length * bytesPerPacket := by
  induction packets with
  | nil => simp
  | cons p packets ih => rw [List.flatMap_cons, List.length_append, ih, p.length_eq,
      List.length_cons, Nat.succ_mul, Nat.add_comm]

/-- The bytes of packet `k` in the stream. -/
theorem take_drop_flatMap_bytes {packets : List SpeexPacket} :
    ∀ {k : Nat}, k < packets.length →
      packets[k]?.map (·.bytes) =
        some (((packets.flatMap (·.bytes)).drop (k * bytesPerPacket)).take bytesPerPacket) := by
  induction packets with
  | nil => intro k hk; exact absurd hk (Nat.not_lt_zero k)
  | cons p packets ih =>
      intro k hk
      cases k with
      | zero =>
          rw [Nat.zero_mul, List.drop_zero, List.flatMap_cons, ← p.length_eq, List.take_left]
          rfl
      | succ k =>
          have hrest : (k + 1) * bytesPerPacket = p.bytes.length + k * bytesPerPacket := by
            rw [Nat.succ_mul, p.length_eq, Nat.add_comm]
          rw [hrest, List.flatMap_cons, List.drop_length_add_append, List.getElem?_cons_succ]
          exact ih (Nat.lt_of_succ_lt_succ hk)

/-! ### Aligned reads -/

/-- All reads so far ended where a packet ends. -/
structure Aligned (packets : List SpeexPacket) (s : StreamState) : Prop where
  received : bytesPerPacket ∣ s.received
  socket : s.socket = (packets.flatMap (·.bytes)).drop s.received
  decoded : ∃ ks : List Nat, ks.Pairwise (· < ·) ∧
    List.Forall₂ (WholePacket packets) s.decoded ks ∧
      ∀ k ∈ ks, (k + 1) * bytesPerPacket ≤ s.received

theorem Aligned.init (m : Memory UInt8) (packets : List SpeexPacket) :
    Aligned packets (StreamState.init m packets) where
  received := Nat.dvd_zero _
  socket := rfl
  decoded := ⟨[], List.Pairwise.nil, List.Forall₂.nil, fun _ hk => absurd hk (by simp)⟩

theorem packetIndex_of_dvd {n : Nat} (hpos : 0 < n) (h : bytesPerPacket ∣ n) :
    packetIndex n + bytesPerPacket = n := by
  have hle : bytesPerPacket ≤ n := Nat.le_of_dvd hpos h
  unfold packetIndex
  split <;> omega

theorem Aligned.step {packets : List SpeexPacket} {s t : StreamState} {len : Int}
    (hs : Aligned packets s) (h : Step s len t) (hlen : 0 < len → (bytesPerPacket : Int) ∣ len) :
    Aligned packets t := by
  cases h.move with
  | failed => exact ⟨hs.received, hs.socket, hs.decoded⟩
  | nothing => exact hs
  | read n hpos havailable =>
      -- the read is not empty and ends where a packet ends
      have hdvd : bytesPerPacket ∣ n := Int.natCast_dvd_natCast.mp (hlen (by omega))
      have hindex := packetIndex_of_dvd hpos hdvd
      obtain ⟨ks, hsorted, hwhole, hbound⟩ := hs.decoded
      -- the packet that ends where the read ends
      have hindexDvd : bytesPerPacket ∣ packetIndex n := by
        rw [← hindex] at hdvd
        exact (Nat.dvd_add_left (Nat.dvd_refl _)).mp hdvd
      obtain ⟨k, hk⟩ : ∃ k, s.received + packetIndex n = k * bytesPerPacket :=
        ⟨_, (Nat.div_mul_cancel (Nat.dvd_add hs.received hindexDvd)).symm⟩
      have hend : (k + 1) * bytesPerPacket = s.received + n := by
        rw [Nat.succ_mul, ← hk]
        omega
      have hlast : k < packets.length := by
        rw [hs.socket, List.length_drop, length_flatMap_bytes] at havailable
        apply Nat.lt_of_succ_le
        apply Nat.le_of_mul_le_mul_right _ (show 0 < bytesPerPacket by decide)
        rw [Nat.succ_eq_add_one, hend]
        omega
      have hpacket : WholePacket packets ⟨s.received, n, packetIndex n, decodeSpeexFrame
          (write s.streamBuf 0 (s.socket.take n)) (packetIndex n)⟩ k := by
        refine ⟨hk, Nat.le_of_eq hindex, ?_⟩
        have hread : packetIndex n + bytesPerPacket ≤ (s.socket.take n).length := by
          rw [List.length_take]
          omega
        have htake : n - packetIndex n = bytesPerPacket := by omega
        rw [take_drop_flatMap_bytes hlast, ← hk, decodeSpeexFrame_eq, read_write_inside hread,
          List.drop_take, htake, List.take_take, Nat.min_self, hs.socket, List.drop_drop]
      refine ⟨Nat.dvd_add hs.received hdvd, ?_, ks ++ [k], ?_, ?_, ?_⟩
      · rw [hs.socket, List.drop_drop]
      · refine List.pairwise_append.mpr ⟨hsorted, List.pairwise_singleton _ _, ?_⟩
        intro i hi j hj
        obtain rfl := List.mem_singleton.mp hj
        have hbefore := hbound i hi
        apply Nat.lt_of_mul_lt_mul_right (a := bytesPerPacket)
        rw [Nat.succ_mul] at hbefore
        have hpositive : 0 < bytesPerPacket := by decide
        omega
      · exact List.rel_append hwhole (List.Forall₂.cons hpacket List.Forall₂.nil)
      · intro i hi
        rcases List.mem_append.mp hi with hold | hnew
        · exact (hbound i hold).trans (Nat.le_add_right _ _)
        · obtain rfl := List.mem_singleton.mp hnew
          exact Nat.le_of_eq hend

theorem Aligned.faithful {packets : List SpeexPacket} {s : StreamState} (hs : Aligned packets s) :
    Faithful packets s.decoded := by
  obtain ⟨ks, hsorted, hwhole, -⟩ := hs.decoded
  exact ⟨ks, hsorted, hwhole⟩

theorem Aligned.run {packets : List SpeexPacket} {s t : StreamState} {reads : List Int}
    (hs : Aligned packets s) (h : Run Step s reads t)
    (hreads : ∀ len ∈ reads, 0 < len → (bytesPerPacket : Int) ∣ len) : Aligned packets t := by
  induction h with
  | nil => exact hs
  | snoc hrun hstep ih =>
      apply (ih _).step hstep
      · exact hreads _ (List.mem_append_right _ (List.mem_singleton_self _))
      · intro len hlen
        exact hreads len (List.mem_append_left _ hlen)

/-! ### Unaligned reads

A read that ends inside a packet has its last 140 bytes from two packets, and what is
decoded from them is neither. -/

/-- What was decoded before the last call was faithful as well. -/
theorem Faithful.front {packets : List SpeexPacket} {front : List Decoded} {d : Decoded}
    (h : Faithful packets (front ++ [d])) :
    Faithful packets front ∧ ∃ k, WholePacket packets d k := by
  obtain ⟨ks, hsorted, hwhole⟩ := h
  have hflip := hwhole.flip
  have hfront := (List.forall₂_take_append ks front [d] hflip).flip
  have hlast := (List.forall₂_drop_append ks front [d] hflip).flip
  refine ⟨⟨_, hsorted.sublist (List.take_sublist _ _), hfront⟩, ?_⟩
  generalize ks.drop front.length = ls at hlast
  cases hlast with
  | cons hd _ => exact ⟨_, hd⟩

/-- A block that is a whole packet ends a read of whole packets. -/
theorem WholePacket.dvd {packets : List SpeexPacket} {d : Decoded} {k : Nat}
    (h : WholePacket packets d k) (hstart : bytesPerPacket ∣ d.start)
    (hindex : d.idx = packetIndex d.len) : bytesPerPacket ∣ d.len := by
  have hsum : bytesPerPacket ∣ d.start + d.idx := h.aligned ▸ Nat.dvd_mul_left _ _
  have hidx : bytesPerPacket ∣ d.idx := (Nat.dvd_add_right hstart).mp hsum
  have hinside := h.inside
  have hlen : d.len = d.idx + bytesPerPacket := by
    unfold packetIndex at hindex
    split at hindex <;> omega
  rw [hlen]
  exact Nat.dvd_add hidx (Nat.dvd_refl _)

/-- A run that hands over whole packets only has read whole packets only. -/
theorem Faithful.reads {m : Memory UInt8} {packets : List SpeexPacket} {s : StreamState}
    {reads : List Int} (hfaithful : Faithful packets s.decoded)
    (h : Run Step (StreamState.init m packets) reads s) :
    ∀ len ∈ reads, 0 < len → (bytesPerPacket : Int) ∣ len := by
  induction h with
  | nil =>
      intro len hlen
      exact absurd hlen (by simp)
  | @snoc t u reads len hrun hstep ih =>
      rw [List.forall_mem_append, List.forall_mem_singleton]
      cases hstep.move with
      | failed => exact ⟨ih hfaithful, fun hpos => absurd hpos (by decide)⟩
      | nothing => exact ⟨ih hfaithful, fun hpos => absurd hpos (by decide)⟩
      | read n hn havailable =>
          obtain ⟨hfront, k, hpacket⟩ := hfaithful.front
          have hreads := ih hfront
          have hstart := ((Aligned.init m packets).run hrun hreads).received
          have hdvd : bytesPerPacket ∣ n := hpacket.dvd hstart rfl
          exact ⟨hreads, fun _ => Int.natCast_dvd_natCast.mpr hdvd⟩

/-- **The decoder gets whole packets, in order and none twice, exactly when every
    read returns a whole number of packets.** -/
theorem decoded_faithful_iff {m : Memory UInt8} {packets : List SpeexPacket} {s : StreamState}
    {reads : List Int} (h : Run Step (StreamState.init m packets) reads s) :
    Faithful packets s.decoded ↔ ∀ len ∈ reads, 0 < len → (bytesPerPacket : Int) ∣ len := by
  constructor
  · intro hfaithful
    exact hfaithful.reads h
  · intro hreads
    exact ((Aligned.init m packets).run h hreads).faithful

/-- A packet with a byte of its own. -/
def plainPacket (b : UInt8) : SpeexPacket where
  bytes := List.replicate bytesPerPacket b
  length_eq := List.length_replicate

/-- One packet, nothing, and then two at once, of which the first is skipped. -/
theorem decoded_faithful_iff_merged :
    ∃ s, Run Step (StreamState.init (fun _ => 0) [plainPacket 1, plainPacket 2, plainPacket 3])
        [140, 0, 280] s ∧
      Faithful [plainPacket 1, plainPacket 2, plainPacket 3] s.decoded := by
  obtain ⟨s, hs⟩ := Option.isSome_iff_exists.mp (by decide +kernel :
    (execute streamStep (StreamState.init (fun _ => 0)
      [plainPacket 1, plainPacket 2, plainPacket 3]) [140, 0, 280]).isSome = true)
  have hrun := Run.of_execute hs
  exact ⟨s, hrun, (decoded_faithful_iff hrun).mpr (by decide)⟩

/-- The first half of a packet is decoded with 70 old bytes, the second half with the
    first chunk of the next packet. -/
theorem decoded_unaligned :
    ∃ s, Run Step (StreamState.init (fun _ => 0) [plainPacket 1, plainPacket 2]) [70, 140] s ∧
      s.decoded.map (·.block) = [List.replicate 70 1 ++ List.replicate 70 0,
        List.replicate 70 1 ++ List.replicate 70 2] ∧
      ¬Faithful [plainPacket 1, plainPacket 2] s.decoded := by
  obtain ⟨s, hs, hvalues⟩ := Option.map_eq_some_iff.mp (by decide +kernel :
    (execute streamStep (StreamState.init (fun _ => 0) [plainPacket 1, plainPacket 2])
      [70, 140]).map (fun s => s.decoded.map (·.block)) =
        some [List.replicate 70 1 ++ List.replicate 70 0,
          List.replicate 70 1 ++ List.replicate 70 2])
  have hrun := Run.of_execute hs
  refine ⟨s, hrun, hvalues, fun hfaithful => ?_⟩
  have hreads := hfaithful.reads hrun 70 (by decide) (by decide)
  exact absurd hreads (by decide)

end DroidCam.AudioStream
