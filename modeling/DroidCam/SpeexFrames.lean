import DroidCam.AudioStream
import Mathlib.Data.List.Count

/-
  DroidCam/SpeexFrames.lean
  =========================
  `decode_speex_frame`: chunks of the stream into frames in `decode_buf`.

  A chunk is decoded until the decoder has no more of it or the buffer is full.
  Every frame starts where the one before it ended, and the buffer is a whole
  number of frames, so the only check, before each frame, is enough.  The function
  returns what it decoded; the stream loop does not look at it.
-/

namespace DroidCam.SpeexFrames

open CArith ByteMemory AudioPlayback AudioStream

/-! ### `decode_speex_frame` -/

def DECODE_BUF_SIZE : Nat := DROIDCAM_PCM_CHUNK_SAMPLES_2 * 6

/-- `spx_decoder.frame_size`. -/
def frameSize : Nat := decoderGetAudioFrameSize

/-- One `speex_decode_int`: a frame with 0; otherwise what it leaves in the buffer
    is not a frame, but it is no longer than one. -/
structure DecodeResult where
  ret : Int
  samples : List Int16
  length_le : samples.length ≤ frameSize
  length_eq : ret = 0 → samples.length = frameSize

structure DecodeState where
  decodeBuf : Memory Int16
  outputUsed : Nat
  -- history: where each chunk was read, where each call of the decoder stored
  reads : List Int
  calls : List Nat

/-- The state after `speex_decode_int(.., &decode_buf[output_used])`. -/
def DecodeState.called (s : DecodeState) (r : DecodeResult) : DecodeState :=
  { s with
    decodeBuf := write s.decodeBuf s.outputUsed r.samples
    calls := s.calls ++ [s.outputUsed] }

/-- The inner loop: `results k` is what the call number `k` of the decoder does. -/
def decodeChunk (results : Nat → DecodeResult) (s : DecodeState) : DecodeState :=
  if s.outputUsed < DECODE_BUF_SIZE then
    let r := results s.calls.length
    if r.ret ≠ 0 then s.called r
    else decodeChunk results { s.called r with outputUsed := s.outputUsed + frameSize }
  else s
termination_by DECODE_BUF_SIZE - s.outputUsed
decreasing_by simp [frameSize, decoderGetAudioFrameSize] at *; omega

/-- Chunk `i`: `speex_bits_read_from(&stream_buf[i * 70], 70)`, then the inner loop. -/
def readChunk (results : Nat → DecodeResult) (s : DecodeState) (i : Nat) : DecodeState :=
  decodeChunk results { s with reads := s.reads ++ [toInt32 (i * DROIDCAM_SPX_CHUNK_BYTES_2)] }

def decodeChunks (results : Nat → DecodeResult) (chunks : Nat) (buf : Memory Int16) : DecodeState :=
  (List.range chunks).foldl (readChunk results) ⟨buf, 0, [], []⟩

/-- `v += v * audioBoostPerc / 100` on a `short`. -/
def boostSample (perc : Int) (v : Int16) : Int16 :=
  Int16.ofInt (v.toInt + (v.toInt * perc).tdiv 100)

def boosts (perc : Int) : Bool := perc ≠ 100 ∧ 50 ≤ perc ∧ perc < 200

/-- The loop over the samples that are used. -/
def audioBoost (perc : Int) (s : DecodeState) : DecodeState :=
  if 0 < s.outputUsed ∧ boosts perc then
    { s with decodeBuf :=
        write s.decodeBuf 0 ((read s.decodeBuf 0 s.outputUsed).map (boostSample perc)) }
  else s

/-- The state it returns with; what it returns is `outputUsed`. -/
def decodeSpeexFrames (results : Nat → DecodeResult) (perc : Int) (chunks : Nat)
    (buf : Memory Int16) : DecodeState :=
  audioBoost perc (decodeChunks results chunks buf)

/-- What the stream loop has after a packet. -/
structure PacketDecoded where
  decodeBuf : Memory Int16
  decodeBufUsed : Nat
  -- history: what `decode_speex_frame` returned
  returned : Nat

/-- The block `if (len > 0)` of `AudioThreadProc`, from its call of the decoder on. -/
def packetDecoded (results : Nat → DecodeResult) (perc : Int) (buf : Memory Int16) :
    PacketDecoded :=
  let s := decodeSpeexFrames results perc CHUNKS_PER_PACKET buf
  { decodeBuf := s.decodeBuf
    decodeBufUsed := CHUNKS_PER_PACKET * DROIDCAM_PCM_CHUNK_SAMPLES_2
    returned := s.outputUsed }

/-! ### What it is for -/

/-- The frames among the first `n` results. -/
def frames (results : Nat → DecodeResult) (n : Nat) : List DecodeResult :=
  ((List.range n).map results).filter fun r => r.ret = 0

/-- The failures among the first `n` results. -/
def failures (results : Nat → DecodeResult) (n : Nat) : Nat :=
  ((List.range n).map results).countP fun r => r.ret ≠ 0

/-- The samples as the boost leaves them. -/
def boosted (perc : Int) (samples : List Int16) : List Int16 :=
  if boosts perc then samples.map (boostSample perc) else samples

/-- `decode_speex_frame` of `chunks` chunks keeps to both buffers, and returns the
    length of the frames that lie back to back at the start of `decode_buf`. -/
structure DecodesFrames (results : Nat → DecodeResult) (perc : Int) (chunks : Nat)
    (buf : Memory Int16) (s : DecodeState) : Prop where
  reads : ∀ off ∈ s.reads, 0 ≤ off ∧
    off + DROIDCAM_SPX_CHUNK_BYTES_2 ≤ (DROIDCAM_SPX_CHUNK_BYTES_2 * chunks : Nat)
  writes : ∀ off ∈ s.calls, off + frameSize ≤ DECODE_BUF_SIZE
  outside : ∀ x, x < 0 ∨ DECODE_BUF_SIZE ≤ x → s.decodeBuf x = buf x
  layout : read s.decodeBuf 0 s.outputUsed =
    boosted perc ((frames results s.calls.length).flatMap (·.samples))
  returned : s.outputUsed = frameSize * (frames results s.calls.length).length ∧
    s.outputUsed ≤ DECODE_BUF_SIZE

/-! ### The inner loop

The inner loop has one way out, a failing call; a full buffer stops it as well. -/

theorem frames_succ (results : Nat → DecodeResult) (n : Nat) :
    frames results (n + 1) =
      frames results n ++ if (results n).ret = 0 then [results n] else [] := by
  rw [frames, List.range_succ, List.map_append, List.filter_append]
  split
  · rename_i hret
    simp [frames, hret]
  · rename_i hret
    simp [frames, hret]

theorem failures_succ (results : Nat → DecodeResult) (n : Nat) :
    failures results (n + 1) = failures results n + if (results n).ret = 0 then 0 else 1 := by
  rw [failures, List.range_succ, List.map_append, List.countP_append]
  split
  · rename_i hret
    simp [failures, hret]
  · rename_i hret
    simp [failures, hret]

/-- Every result is a frame or a failure. -/
theorem frames_add_failures (results : Nat → DecodeResult) (n : Nat) :
    (frames results n).length + failures results n = n := by
  induction n with
  | zero => rfl
  | succ n ih =>
      rw [frames_succ, failures_succ]
      split
      · rw [List.length_append, List.length_singleton]
        omega
      · rw [List.append_nil]
        omega

theorem failures_mono (results : Nat → DecodeResult) {m n : Nat} (h : m ≤ n) :
    failures results m ≤ failures results n := by
  induction h with
  | refl => exact Nat.le_refl _
  | step _ ih =>
      rw [failures_succ]
      omega

/-- The frames so far fill `decode_buf` from its start on. -/
structure Filled (results : Nat → DecodeResult) (buf : Memory Int16) (s : DecodeState) :
    Prop where
  used : s.outputUsed = frameSize * (frames results s.calls.length).length
  le : s.outputUsed ≤ DECODE_BUF_SIZE
  layout : read s.decodeBuf 0 s.outputUsed =
    (frames results s.calls.length).flatMap (·.samples)
  writes : ∀ off ∈ s.calls, off + frameSize ≤ DECODE_BUF_SIZE
  outside : ∀ x, x < 0 ∨ DECODE_BUF_SIZE ≤ x → s.decodeBuf x = buf x

/-- A frame that starts inside the buffer ends inside it. -/
theorem Filled.room {results : Nat → DecodeResult} {buf : Memory Int16} {s : DecodeState}
    (hs : Filled results buf s) (hroom : s.outputUsed < DECODE_BUF_SIZE) :
    s.outputUsed + frameSize ≤ DECODE_BUF_SIZE := by
  have hused := hs.used
  simp only [frameSize, decoderGetAudioFrameSize, DECODE_BUF_SIZE,
    DROIDCAM_PCM_CHUNK_SAMPLES_2] at hused hroom ⊢
  omega

@[simp] theorem DecodeState.called_length (s : DecodeState) (r : DecodeResult) :
    (s.called r).calls.length = s.calls.length + 1 := by
  simp [DecodeState.called]

theorem Filled.called_writes {results : Nat → DecodeResult} {buf : Memory Int16}
    {s : DecodeState} (hs : Filled results buf s) (hroom : s.outputUsed < DECODE_BUF_SIZE)
    (r : DecodeResult) :
    (∀ off ∈ (s.called r).calls, off + frameSize ≤ DECODE_BUF_SIZE) ∧
      ∀ x, x < 0 ∨ DECODE_BUF_SIZE ≤ x → (s.called r).decodeBuf x = buf x := by
  have hend := hs.room hroom
  have hlen := r.length_le
  constructor
  · intro off hoff
    rcases List.mem_append.mp hoff with hold | hnew
    · exact hs.writes off hold
    · obtain rfl := List.mem_singleton.mp hnew
      exact hend
  · intro x hx
    show write s.decodeBuf s.outputUsed r.samples x = buf x
    rw [write_outside (by omega), hs.outside x hx]

/-- A call stores behind the frames that are there. -/
theorem DecodeState.called_front (s : DecodeState) (r : DecodeResult) :
    read (s.called r).decodeBuf 0 s.outputUsed = read s.decodeBuf 0 s.outputUsed :=
  read_write_disjoint (Or.inl (by omega))

/-- A failing call keeps the frames that are there. -/
theorem Filled.failed {results : Nat → DecodeResult} {buf : Memory Int16} {s : DecodeState}
    (hs : Filled results buf s) (hroom : s.outputUsed < DECODE_BUF_SIZE)
    (hret : (results s.calls.length).ret ≠ 0) :
    Filled results buf (s.called (results s.calls.length)) := by
  obtain ⟨hwrites, houtside⟩ := hs.called_writes hroom (results s.calls.length)
  have hframes : frames results (s.calls.length + 1) = frames results s.calls.length := by
    rw [frames_succ, if_neg hret, List.append_nil]
  refine ⟨?_, hs.le, ?_, hwrites, houtside⟩
  · rw [DecodeState.called_length, hframes]
    exact hs.used
  · rw [DecodeState.called_length, hframes, ← hs.layout]
    exact s.called_front (results s.calls.length)

/-- A frame goes behind those that are there. -/
theorem Filled.decoded {results : Nat → DecodeResult} {buf : Memory Int16} {s : DecodeState}
    (hs : Filled results buf s) (hroom : s.outputUsed < DECODE_BUF_SIZE)
    (hret : (results s.calls.length).ret = 0) :
    Filled results buf { s.called (results s.calls.length) with
      outputUsed := s.outputUsed + frameSize } := by
  obtain ⟨hwrites, houtside⟩ := hs.called_writes hroom (results s.calls.length)
  have hsamples := (results s.calls.length).length_eq hret
  refine ⟨?_, hs.room hroom, ?_, hwrites, houtside⟩
  · show s.outputUsed + frameSize = _
    rw [DecodeState.called_length, frames_succ, if_pos hret, List.length_append,
      List.length_singleton, Nat.mul_succ, ← hs.used]
  · show read (s.called (results s.calls.length)).decodeBuf 0 (s.outputUsed + frameSize) = _
    have hframe : read (s.called (results s.calls.length)).decodeBuf s.outputUsed
        (results s.calls.length).samples.length = (results s.calls.length).samples :=
      read_write_self s.decodeBuf s.outputUsed (results s.calls.length).samples
    rw [hsamples] at hframe
    rw [read_add, s.called_front, Int.zero_add, hframe, hs.layout, DecodeState.called_length,
      frames_succ, if_pos hret, List.flatMap_append]
    simp

/-- The inner loop does not touch the reads. -/
theorem decodeChunk_reads (results : Nat → DecodeResult) (s : DecodeState) :
    (decodeChunk results s).reads = s.reads := by
  fun_induction decodeChunk results s with
  | case1 => rfl
  | case2 s hroom r hret ih => exact ih
  | case3 => rfl

theorem Filled.decodeChunk {results : Nat → DecodeResult} {buf : Memory Int16} {s : DecodeState}
    (hs : Filled results buf s) : Filled results buf (decodeChunk results s) := by
  fun_induction SpeexFrames.decodeChunk results s with
  | case1 s hroom r hret => exact hs.failed hroom hret
  | case2 s hroom r hret ih =>
      apply ih
      exact hs.decoded hroom (by simpa using hret)
  | case3 s hfull => exact hs

/-- After `k` chunks: the buffer is full, or the decoder has failed `k` times, the last
    of them at its last call. -/
structure Exhausted (results : Nat → DecodeResult) (k : Nat) (s : DecodeState) : Prop where
  before : ∀ j < s.calls.length, failures results j < k
  done : s.outputUsed = DECODE_BUF_SIZE ∨ failures results s.calls.length = k

/-- One chunk ends with a failure, or with the buffer full. -/
theorem exhausted_decodeChunk {results : Nat → DecodeResult} {buf : Memory Int16}
    {s : DecodeState} {k : Nat} (hs : Filled results buf s)
    (hbefore : ∀ j < s.calls.length, failures results j ≤ k)
    (hdone : s.outputUsed = DECODE_BUF_SIZE ∨ failures results s.calls.length = k) :
    Exhausted results (k + 1) (decodeChunk results s) := by
  fun_induction SpeexFrames.decodeChunk results s with
  -- the call fails, and this turn is over
  | case1 s hroom r hret =>
      have hk : failures results s.calls.length = k := by
        rcases hdone with hfull | hk
        · omega
        · exact hk
      constructor
      · intro j hj
        rw [DecodeState.called_length] at hj
        rcases Nat.lt_succ_iff_lt_or_eq.mp hj with hlt | rfl
        · exact Nat.lt_succ_of_le (hbefore j hlt)
        · omega
      · right
        rw [DecodeState.called_length, failures_succ, if_neg hret, hk]
  -- a frame: the failures so far are those of the turn before
  | case2 s hroom r hret ih =>
      have hret : (results s.calls.length).ret = 0 := by simpa using hret
      have hk : failures results s.calls.length = k := by
        rcases hdone with hfull | hk
        · omega
        · exact hk
      have hnext : failures results (s.called r).calls.length = k := by
        rw [DecodeState.called_length, failures_succ, if_pos hret, hk, Nat.add_zero]
      refine ih (hs.decoded hroom hret) ?_ (Or.inr hnext)
      intro j hj
      rw [← hnext]
      exact failures_mono results (Nat.le_of_lt hj)
  | case3 s hfull =>
      refine ⟨fun j hj => Nat.lt_succ_of_le (hbefore j hj), Or.inl ?_⟩
      have hle := hs.le
      omega

/-! ### All chunks

Each turn of the outer loop ends with one failure or with a full buffer, so that the
number of chunks bounds the failures. -/

theorem Filled.init (results : Nat → DecodeResult) (buf : Memory Int16) :
    Filled results buf ⟨buf, 0, [], []⟩ where
  used := rfl
  le := Nat.zero_le _
  layout := rfl
  writes := fun _ hoff => absurd hoff List.not_mem_nil
  outside := fun _ _ => rfl

theorem decodeChunks_succ (results : Nat → DecodeResult) (n : Nat) (buf : Memory Int16) :
    decodeChunks results (n + 1) buf = readChunk results (decodeChunks results n buf) n := by
  rw [decodeChunks, List.range_succ, List.foldl_append]
  rfl

theorem Filled.decodeChunks (results : Nat → DecodeResult) (n : Nat) (buf : Memory Int16) :
    Filled results buf (decodeChunks results n buf) := by
  induction n with
  | zero => exact Filled.init results buf
  | succ n ih =>
      rw [decodeChunks_succ]
      exact Filled.decodeChunk ⟨ih.used, ih.le, ih.layout, ih.writes, ih.outside⟩

theorem exhausted_decodeChunks (results : Nat → DecodeResult) (n : Nat) (buf : Memory Int16) :
    Exhausted results n (decodeChunks results n buf) := by
  induction n with
  | zero => exact ⟨fun j hj => absurd hj (Nat.not_lt_zero j), Or.inr rfl⟩
  | succ n ih =>
      have hs := Filled.decodeChunks results n buf
      rw [decodeChunks_succ]
      exact exhausted_decodeChunk ⟨hs.used, hs.le, hs.layout, hs.writes, hs.outside⟩
        (fun j hj => Nat.le_of_lt (ih.before j hj)) ih.done

theorem decodeChunks_reads (results : Nat → DecodeResult) (n : Nat) (buf : Memory Int16) :
    (decodeChunks results n buf).reads =
      (List.range n).map fun i : Nat => toInt32 (i * DROIDCAM_SPX_CHUNK_BYTES_2) := by
  induction n with
  | zero => rfl
  | succ n ih =>
      rw [decodeChunks_succ, readChunk, decodeChunk_reads, ih, List.range_succ, List.map_append]
      rfl

/-! ### The boost -/

theorem audioBoost_kept (perc : Int) (s : DecodeState) :
    (audioBoost perc s).outputUsed = s.outputUsed ∧ (audioBoost perc s).reads = s.reads ∧
      (audioBoost perc s).calls = s.calls := by
  unfold audioBoost
  split <;> exact ⟨rfl, rfl, rfl⟩

theorem audioBoost_read (perc : Int) (s : DecodeState) :
    read (audioBoost perc s).decodeBuf 0 s.outputUsed =
      boosted perc (read s.decodeBuf 0 s.outputUsed) := by
  by_cases hboost : boosts perc = true
  · by_cases hused : 0 < s.outputUsed
    · have hwhole := read_write_self s.decodeBuf 0
        ((read s.decodeBuf 0 s.outputUsed).map (boostSample perc))
      rw [List.length_map, length_read] at hwhole
      rw [audioBoost, if_pos ⟨hused, hboost⟩, boosted, if_pos hboost]
      exact hwhole
    · obtain hzero : s.outputUsed = 0 := by omega
      rw [hzero, boosted, if_pos hboost]
      rfl
  · rw [audioBoost, if_neg fun h => hboost h.2, boosted, if_neg hboost]

theorem audioBoost_outside {perc : Int} {s : DecodeState} {x : Int}
    (hx : x < 0 ∨ s.outputUsed ≤ x) : (audioBoost perc s).decodeBuf x = s.decodeBuf x := by
  unfold audioBoost
  split
  · apply write_outside
    rw [List.length_map, length_read]
    omega
  · rfl

/-! ### What is decoded and what is played

`decode_buf_used` is set to the length of a packet, whatever the decoder has returned. -/

/-- The offset of a chunk is computed in `int`. -/
theorem chunk_offsets_iff (chunks : Nat) :
    (∀ off ∈ (List.range chunks).map fun i : Nat => toInt32 (i * DROIDCAM_SPX_CHUNK_BYTES_2),
      0 ≤ off ∧ off + DROIDCAM_SPX_CHUNK_BYTES_2 ≤ (DROIDCAM_SPX_CHUNK_BYTES_2 * chunks : Nat)) ↔
      chunks ≤ 30678338 := by
  simp only [List.mem_map, List.mem_range, DROIDCAM_SPX_CHUNK_BYTES_2]
  constructor
  · intro h
    by_contra hlarge
    -- the first product beyond INT_MAX
    have hoverflow := (h _ ⟨30678338, by omega, rfl⟩).1
    exact absurd hoverflow (by decide)
  · rintro hle off ⟨i, hi, rfl⟩
    rw [toInt32_of_fits (by omega) (by omega)]
    omega

theorem decodesFrames_iff (results : Nat → DecodeResult) (perc : Int) (chunks : Nat)
    (buf : Memory Int16) :
    DecodesFrames results perc chunks buf (decodeSpeexFrames results perc chunks buf) ↔
      chunks ≤ 30678338 := by
  have hs := Filled.decodeChunks results chunks buf
  obtain ⟨hused, hreads, hcalls⟩ := audioBoost_kept perc (decodeChunks results chunks buf)
  rw [← chunk_offsets_iff, ← decodeChunks_reads results chunks buf, ← hreads]
  constructor
  · intro h
    exact h.reads
  · intro h
    refine ⟨h, ?_, ?_, ?_, ?_⟩
    · rw [decodeSpeexFrames, hcalls]
      exact hs.writes
    · intro x hx
      have hle := hs.le
      rw [decodeSpeexFrames, audioBoost_outside (by omega), hs.outside x hx]
    · rw [decodeSpeexFrames, hused, hcalls, audioBoost_read, hs.layout]
    · rw [decodeSpeexFrames, hused, hcalls]
      exact ⟨hs.used, hs.le⟩

/-- Two of the first three calls give a frame, and the fourth does not. -/
def TwoFrames (results : Nat → DecodeResult) : Prop :=
  failures results 3 = 1 ∧ (results 3).ret ≠ 0

theorem outputUsed_packet_iff (results : Nat → DecodeResult) (buf : Memory Int16) :
    (decodeChunks results CHUNKS_PER_PACKET buf).outputUsed = packetSamples ↔
      TwoFrames results := by
  have hs := Filled.decodeChunks results CHUNKS_PER_PACKET buf
  have hend := exhausted_decodeChunks results CHUNKS_PER_PACKET buf
  generalize decodeChunks results CHUNKS_PER_PACKET buf = s at hs hend
  have hsum := frames_add_failures results s.calls.length
  have hused : s.outputUsed = 320 * (frames results s.calls.length).length := hs.used
  have hfour : failures results 4 = failures results 3 + if (results 3).ret = 0 then 0 else 1 :=
    failures_succ results 3
  constructor
  · intro hpacket
    have hpacket : s.outputUsed = 640 := hpacket
    have hfailed : failures results s.calls.length = 2 := by
      rcases hend.done with hfull | hfailed
      · exact absurd (hpacket.symm.trans hfull) (by decide)
      · exact hfailed
    -- two frames and two failures
    have hcalls : s.calls.length = 4 := by omega
    have hthree : failures results 3 < 2 := hend.before 3 (by omega)
    rw [hcalls] at hfailed
    split at hfour
    · omega
    · rename_i hret
      exact ⟨by omega, hret⟩
  · rintro ⟨hthree, hret⟩
    rw [if_neg hret, hthree] at hfour
    have hcalls : s.calls.length = 4 := by
      by_contra hne
      rcases Nat.lt_or_gt_of_ne hne with hlt | hgt
      · have hle := failures_mono results (Nat.le_of_lt_succ hlt)
        rcases hend.done with hfull | hfailed
        · have hfull : s.outputUsed = 1920 := hfull
          omega
        · have hfailed : failures results s.calls.length = 2 := hfailed
          omega
      · have hbefore : failures results 4 < 2 := hend.before 4 hgt
        omega
    have hfailed : failures results s.calls.length = 2 := by rw [hcalls, hfour]
    show s.outputUsed = 640
    omega

theorem packetDecoded_iff (results : Nat → DecodeResult) (perc : Int) (buf : Memory Int16) :
    (packetDecoded results perc buf).decodeBufUsed = (packetDecoded results perc buf).returned ↔
      TwoFrames results := by
  obtain ⟨hused, -, -⟩ := audioBoost_kept perc (decodeChunks results CHUNKS_PER_PACKET buf)
  rw [← outputUsed_packet_iff results buf, ← hused]
  exact eq_comm

/-- **When `decode_speex_frame` keeps to its buffers, and when the stream loop plays
    what it returned**: the first is about the number of chunks alone, the second
    about the results of the decoder alone. -/
theorem decoded_and_played_iff (results : Nat → DecodeResult) (perc : Int) (chunks : Nat)
    (buf : Memory Int16) :
    (DecodesFrames results perc chunks buf (decodeSpeexFrames results perc chunks buf) ↔
      chunks ≤ 30678338) ∧
    ((packetDecoded results perc buf).decodeBufUsed = (packetDecoded results perc buf).returned ↔
      TwoFrames results) :=
  ⟨decodesFrames_iff results perc chunks buf, packetDecoded_iff results perc buf⟩

def silentFrame : DecodeResult where
  ret := 0
  samples := List.replicate frameSize 0
  length_le := (List.length_replicate ..).le
  length_eq := fun _ => List.length_replicate

def decodeFailure (ret : Int) (hret : ret ≠ 0) : DecodeResult where
  ret := ret
  samples := []
  length_le := Nat.zero_le _
  length_eq := fun h => absurd h hret

/-- The second chunk of a packet is corrupt: one frame is decoded, two are played. -/
theorem played_undecoded :
    ¬ ∀ (results : Nat → DecodeResult) (perc : Int) (chunks : Nat) (buf : Memory Int16),
      DecodesFrames results perc chunks buf (decodeSpeexFrames results perc chunks buf) ∧
        (packetDecoded results perc buf).decodeBufUsed =
          (packetDecoded results perc buf).returned := by
  intro h
  let results : Nat → DecodeResult := fun
    | 0 => silentFrame
    | 1 => decodeFailure (-1) (by decide)
    | _ => decodeFailure (-2) (by decide)
  have hplayed := (h results 100 0 fun _ => 0).2
  have hfailures := ((packetDecoded_iff results 100 fun _ => 0).mp hplayed).1
  exact absurd hfailures (by decide)

end DroidCam.SpeexFrames
