import DroidCam.AudioPlayback
import DroidCam.Lib.LabelledRun

/-
  DroidCam/AudioTransfer.lean
  ===========================
  The ALSA side of the stream loop of `AudioThreadProc`: `snd_transfer_check` asks
  for room in the ring of the device, the loop fills it from `decode_buf` or with
  concealment, and `snd_transfer_commit` hands it over.

  ALSA answers in the label.  `snd_pcm_mmap_begin` may leave its out parameters as
  they are when it fails; when it succeeds it grants at most the frames it was
  asked for.  `myAreas` is `none` as long as no call has set it.

  Each exit of `snd_transfer_check` that recovered from an error starts the next
  turn of the loop, except the one behind `snd_pcm_mmap_begin`, which goes on to
  fill a place that nobody granted.
-/

namespace DroidCam.AudioTransfer

open CArith ByteMemory LabelledRun AudioPlayback

/-! ### ALSA

The library answers with a count or with the negative of an errno. -/

def EPIPE : Int := 32

def ESTRPIPE : Int := 86

def EAGAIN : Int := 11

inductive PcmState where
  | xrun
  | suspended
  | other (code : Nat)
deriving DecidableEq, Repr

/-- What `snd_pcm_prepare` and the calls of `snd_pcm_resume` return in one
    `xrun_recovery`. -/
structure RecoveryAnswers where
  prepare : Int
  resume : Nat → Int

/-- A part of the ring: `frames` frames from `offset` on. -/
structure Granted where
  areas : Nat
  offset : Nat
  frames : Nat
deriving DecidableEq, Repr

/-- What `snd_pcm_mmap_begin` returns, and what it leaves in its out parameters. -/
structure MmapBegin where
  err : Int
  out : Option Granted
deriving DecidableEq, Repr

/-- What ALSA answers during one `snd_transfer_check`. -/
structure CheckAnswers where
  state : PcmState
  stateRecovery : RecoveryAnswers
  avail : Int
  start : Int
  wait : Int
  mmapBegin : MmapBegin
  recovery : RecoveryAnswers

/-- `struct snd_transfer_s`. -/
structure Transfer where
  first : Bool
  offset : Nat
  frames : Nat
  myAreas : Option Nat
deriving DecidableEq, Repr

/-- The loop that waits until the suspend flag is released. -/
def resumeLoop (resume : Nat → Int) : Nat → Nat → Int
  | 0, _ => -EAGAIN
  | limit + 1, i => if resume i = -EAGAIN then resumeLoop resume limit (i + 1) else resume i

def xrunRecovery (a : RecoveryAnswers) (err : Int) : Int :=
  if err = -EPIPE then a.prepare
  else if err = -ESTRPIPE then
    let err := resumeLoop a.resume 60000 0
    if err < 0 then a.prepare else err
  else err

/-! ### `snd_transfer_check` -/

/-- What the call returns and leaves; `begun` is the call of `snd_pcm_mmap_begin`
    in it. -/
structure Checked where
  ret : Int
  transfer : Transfer
  begun : Option MmapBegin

/-- From `snd_pcm_mmap_begin` on. -/
def beginTransfer (periodSize : Nat) (a : CheckAnswers) (t : Transfer) : Checked :=
  let t :=
    match a.mmapBegin.out with
    | none => { t with frames := periodSize }
    | some g => { t with myAreas := some g.areas, offset := g.offset, frames := g.frames }
  if a.mmapBegin.err < 0 then
    let err := xrunRecovery a.recovery a.mmapBegin.err
    if err < 0 then ⟨err, t, some a.mmapBegin⟩
    else ⟨1, { t with first := true }, some a.mmapBegin⟩
  else ⟨1, t, some a.mmapBegin⟩

/-- From `snd_pcm_avail_update` on. -/
def awaitTransfer (periodSize : Nat) (a : CheckAnswers) (t : Transfer) : Checked :=
  if a.avail < 0 then
    let err := xrunRecovery a.recovery (toInt32 a.avail)
    if err < 0 then ⟨err, t, none⟩ else ⟨0, { t with first := true }, none⟩
  else if a.avail < periodSize then
    if t.first then
      let t := { t with first := false }
      if a.start < 0 then ⟨a.start, t, none⟩ else ⟨0, t, none⟩
    else if a.wait < 0 then
      let err := xrunRecovery a.recovery a.wait
      if err < 0 then ⟨err, t, none⟩ else ⟨0, { t with first := true }, none⟩
    else ⟨0, t, none⟩
  else beginTransfer periodSize a t

def sndTransferCheck (periodSize : Nat) (a : CheckAnswers) (t : Transfer) : Checked :=
  match a.state with
  | .xrun =>
    let err := xrunRecovery a.stateRecovery (-EPIPE)
    if err < 0 then ⟨err, t, none⟩ else awaitTransfer periodSize a { t with first := true }
  | .suspended =>
    let err := xrunRecovery a.stateRecovery (-ESTRPIPE)
    if err < 0 then ⟨err, t, none⟩ else awaitTransfer periodSize a t
  | .other _ => awaitTransfer periodSize a t

/-- What `snd_pcm_mmap_commit` returns, and its recovery. -/
structure CommitAnswers where
  commits : Int
  recovery : RecoveryAnswers

def sndTransferCommit (a : CommitAnswers) (t : Transfer) : Int × Transfer :=
  if a.commits < 0 ∨ a.commits ≠ t.frames then
    let err := xrunRecovery a.recovery (if a.commits ≥ 0 then -EPIPE else toInt32 a.commits)
    if err < 0 then (err, t) else (0, { t with first := true })
  else (0, t)

/-! ### The stream loop

A turn of the loop checks for a transfer, fills it and commits it. The count that is
left of an earlier turn stays in transfer.frames when a check does not get so far. -/

/-- What a read from the socket comes to. -/
inductive Received where
  | failed
  | nothing
  | packet (p : Packet)

structure LoopAnswers where
  recv : Received
  check : CheckAnswers
  commit : CommitAnswers

structure AudioLoop where
  aActive : Bool
  audio : AudioState
  transfer : Transfer

/-- The loop is entered with an empty buffer and nothing granted. -/
def AudioLoop.init (m : Memory Int16) : AudioLoop where
  aActive := true
  audio := AudioState.init m
  transfer := ⟨true, 0, 0, none⟩

/-- Samples written to the ring. -/
structure Fill where
  areas : Option Nat
  offset : Nat
  count : Nat
deriving DecidableEq, Repr

/-- The arguments of `snd_pcm_mmap_commit`. -/
structure Commit where
  offset : Nat
  frames : Nat
deriving DecidableEq, Repr

/-- What one turn of the loop does with the ring. -/
structure Round where
  begun : Option MmapBegin := none
  filled : Option Fill := none
  committed : Option Commit := none
deriving DecidableEq, Repr

/-- `decoder_speex_plc`: the samples it writes, and the transfer it leaves. -/
def decoderSpeexPlc (t : Transfer) : Nat × Transfer :=
  if toInt32 t.frames ≥ decoderGetAudioFrameSize then
    (decoderGetAudioFrameSize, { t with frames := decoderGetAudioFrameSize })
  else (t.frames, t)

/-- The copy of decoded samples. -/
def copyDecoded (t : Transfer) : Nat × Transfer :=
  let t :=
    if toInt32 t.frames ≥ decoderGetAudioFrameSize then
      { t with frames := decoderGetAudioFrameSize }
    else t
  (t.frames, t)

def fillTransfer (decodeBufUsed : Int) (t : Transfer) : Nat × Transfer :=
  if decodeBufUsed = 0 then decoderSpeexPlc t else copyDecoded t

/-- What a transfer does to `decode_buf`; one of no frames does nothing. -/
def playTransfer (audio : AudioState) (granted : Nat) : AudioState :=
  if h : 0 < granted then audioStep audio (.transfer ⟨granted, h⟩) else audio

def Received.play (audio : AudioState) : Received → AudioState
  | .packet p => audioStep audio (.packet p)
  | _ => audio

/-- The loop from a transfer that was checked on.  An area that was never set ends it. -/
def commitTransfer (a : CommitAnswers) (s : AudioLoop) (begun : Option MmapBegin) :
    AudioLoop × Round :=
  let (count, t) := fillTransfer s.audio.decodeBufUsed s.transfer
  let fill := ⟨s.transfer.myAreas, s.transfer.offset, count⟩
  if s.transfer.myAreas.isNone then ({ s with aActive := false }, ⟨begun, some fill, none⟩)
  else
    let (ret, t') := sndTransferCommit a t
    ({ aActive := decide (0 ≤ ret), audio := playTransfer s.audio s.transfer.frames, transfer := t' },
      ⟨begun, some fill, some ⟨t.offset, t.frames⟩⟩)

/-- `snd_pcm_mmap_begin` grants something when it succeeds, and not more than asked for. -/
def MmapBegin.Documented (periodSize : Nat) (b : MmapBegin) : Prop :=
  0 ≤ b.err → b.out.any (fun g => g.frames ≤ periodSize) = true

instance (periodSize : Nat) (b : MmapBegin) : Decidable (b.Documented periodSize) :=
  inferInstanceAs (Decidable (_ → _))

/-- One turn of the loop. -/
def audioTurn (periodSize : Nat) (s : AudioLoop) (a : LoopAnswers) : Option (AudioLoop × Round) :=
  if s.aActive = false ∨ ¬a.check.mmapBegin.Documented periodSize then none
  else
    match a.recv with
    | .failed => some ({ s with aActive := false }, {})
    | recv =>
      let c := sndTransferCheck periodSize a.check s.transfer
      let s := { s with audio := recv.play s.audio, transfer := c.transfer }
      if c.ret < 0 then some ({ s with aActive := false }, { begun := c.begun })
      else if c.ret = 0 then some (s, { begun := c.begun })
      else some (commitTransfer a.commit s c.begun)

def next (periodSize : Nat) (s : AudioLoop) (a : LoopAnswers) : Option AudioLoop :=
  (audioTurn periodSize s a).map Prod.fst

abbrev Step (periodSize : Nat) : AudioLoop → LoopAnswers → AudioLoop → Prop :=
  ofNext (next periodSize)

/-! ### What ALSA needs -/

/-- What was granted in this turn. -/
def Round.granted (r : Round) : Option Granted :=
  r.begun.bind fun b => if 0 ≤ b.err then b.out else none

/-- The samples lie in the part granted in this turn, and exactly they are committed. -/
structure RoundSafe (r : Round) : Prop where
  filled : ∀ f, r.filled = some f → ∃ g, r.granted = some g ∧ f.areas = some g.areas ∧
    g.offset ≤ f.offset ∧ f.offset + f.count ≤ g.offset + g.frames
  committed : ∀ c, r.committed = some c → ∃ f g, r.filled = some f ∧ r.granted = some g ∧
    c.offset = f.offset ∧ c.frames = f.count ∧ c.frames ≤ g.frames

/-- The turn gets to `snd_pcm_mmap_begin`. -/
def CheckAnswers.Begins (periodSize : Nat) (a : CheckAnswers) : Prop :=
  (a.state = .xrun → 0 ≤ xrunRecovery a.stateRecovery (-EPIPE)) ∧
    (a.state = .suspended → 0 ≤ xrunRecovery a.stateRecovery (-ESTRPIPE)) ∧
      0 ≤ a.avail ∧ periodSize ≤ a.avail

/-- A failure of `snd_pcm_mmap_begin` is not recovered from. -/
def FailureEnds (periodSize : Nat) (s : AudioLoop) (a : LoopAnswers) : Prop :=
  (audioTurn periodSize s a).isSome = true → a.recv ≠ .failed → a.check.Begins periodSize →
    a.check.mmapBegin.err < 0 → xrunRecovery a.check.recovery a.check.mmapBegin.err < 0

def TurnSafe (periodSize : Nat) (s : AudioLoop) (a : LoopAnswers) : Prop :=
  ∀ t r, audioTurn periodSize s a = some (t, r) → RoundSafe r

/-! ### One turn -/

/-- Either way of filling writes, and leaves in the transfer, what `transferFrames` says. -/
theorem fillTransfer_eq (used : Int) (t : Transfer) :
    fillTransfer used t = (transferFrames t.frames, { t with frames := transferFrames t.frames }) := by
  unfold fillTransfer decoderSpeexPlc copyDecoded transferFrames
  split_ifs <;> rfl

theorem transferFrames_le_granted (granted : Nat) : transferFrames granted ≤ granted := by
  unfold transferFrames
  split
  · rename_i hlarge
    unfold decoderGetAudioFrameSize toInt32 at *
    omega
  · exact Nat.le_refl _

/-- The ways through `snd_transfer_check`: it stops before `snd_pcm_mmap_begin`, or
    that call grants, or it fails with a recovery or without. -/
inductive CheckMove (periodSize : Nat) (a : CheckAnswers) : Checked → Prop
  | stopped (ret : Int) (t : Transfer) (hret : ret ≤ 0) (hbegins : ¬a.Begins periodSize) :
      CheckMove periodSize a ⟨ret, t, none⟩
  | granted (c : Checked) (hbegins : a.Begins periodSize) (herr : 0 ≤ a.mmapBegin.err)
      (hret : c.ret = 1) (hbegun : c.begun = some a.mmapBegin)
      (hout : ∀ g, a.mmapBegin.out = some g → c.transfer.myAreas = some g.areas ∧
        c.transfer.offset = g.offset ∧ c.transfer.frames = g.frames) :
      CheckMove periodSize a c
  | failed (c : Checked) (hbegins : a.Begins periodSize) (herr : a.mmapBegin.err < 0)
      (hret : c.ret = if xrunRecovery a.recovery a.mmapBegin.err < 0
        then xrunRecovery a.recovery a.mmapBegin.err else 1)
      (hbegun : c.begun = some a.mmapBegin) : CheckMove periodSize a c

theorem beginTransfer_move {periodSize : Nat} {a : CheckAnswers} (t : Transfer)
    (hbegins : a.Begins periodSize) : CheckMove periodSize a (beginTransfer periodSize a t) := by
  unfold beginTransfer
  dsimp only
  split
  · rename_i herr
    split
    · rename_i hrecovery
      exact .failed _ hbegins herr (if_pos hrecovery).symm rfl
    · rename_i hrecovery
      exact .failed _ hbegins herr (if_neg hrecovery).symm rfl
  · rename_i herr
    refine .granted _ hbegins (Int.not_lt.mp herr) rfl rfl ?_
    intro g hg
    simp only [hg, and_self]

theorem awaitTransfer_move {periodSize : Nat} {a : CheckAnswers} (t : Transfer)
    (hstate : (a.state = .xrun → 0 ≤ xrunRecovery a.stateRecovery (-EPIPE)) ∧
      (a.state = .suspended → 0 ≤ xrunRecovery a.stateRecovery (-ESTRPIPE))) :
    CheckMove periodSize a (awaitTransfer periodSize a t) := by
  unfold awaitTransfer
  split
  -- snd_pcm_avail_update failed, so nothing can have begun
  · rename_i havail
    have hbegins : ¬a.Begins periodSize := fun h => by
      have := h.2.2.1
      omega
    dsimp only
    split
    · exact .stopped _ _ (Int.le_of_lt ‹_›) hbegins
    · exact .stopped _ _ (Int.le_refl 0) hbegins
  · rename_i havail
    split
    -- there is less than a period to write, and nothing has begun either
    · rename_i hfew
      have hbegins : ¬a.Begins periodSize := fun h => by
        have := h.2.2.2
        omega
      dsimp only
      split_ifs
      · exact .stopped _ _ (Int.le_of_lt ‹_›) hbegins
      · exact .stopped _ _ (Int.le_refl 0) hbegins
      · exact .stopped _ _ (Int.le_of_lt ‹_›) hbegins
      · exact .stopped _ _ (Int.le_refl 0) hbegins
      · exact .stopped _ _ (Int.le_refl 0) hbegins
    · rename_i hfew
      exact beginTransfer_move t ⟨hstate.1, hstate.2, Int.not_lt.mp havail, Int.not_lt.mp hfew⟩

theorem sndTransferCheck_move (periodSize : Nat) (a : CheckAnswers) (t : Transfer) :
    CheckMove periodSize a (sndTransferCheck periodSize a t) := by
  unfold sndTransferCheck
  split
  -- after an underrun the recovery has to succeed for anything to begin
  · rename_i hstate
    dsimp only
    split
    · rename_i herr
      exact .stopped _ _ (Int.le_of_lt herr) fun h => absurd (h.1 hstate) (Int.not_le.mpr herr)
    · rename_i herr
      refine awaitTransfer_move _ ⟨fun _ => Int.not_lt.mp herr, fun h => ?_⟩
      rw [hstate] at h
      cases h
  · rename_i hstate
    dsimp only
    split
    · rename_i herr
      exact .stopped _ _ (Int.le_of_lt herr) fun h => absurd (h.2.1 hstate) (Int.not_le.mpr herr)
    · rename_i herr
      refine awaitTransfer_move _ ⟨fun h => ?_, fun _ => Int.not_lt.mp herr⟩
      rw [hstate] at h
      cases h
  · rename_i code hstate
    refine awaitTransfer_move _ ⟨fun h => ?_, fun h => ?_⟩
    · rw [hstate] at h
      cases h
    · rw [hstate] at h
      cases h

theorem commitTransfer_round (a : CommitAnswers) (s : AudioLoop) (begun : Option MmapBegin) :
    (commitTransfer a s begun).2 =
      { begun := begun
        filled := some ⟨s.transfer.myAreas, s.transfer.offset, transferFrames s.transfer.frames⟩
        committed := if s.transfer.myAreas.isNone then none
          else some ⟨s.transfer.offset, transferFrames s.transfer.frames⟩ } := by
  simp only [commitTransfer, fillTransfer_eq]
  split
  · rfl
  · rfl

/-- A turn in which nothing is filled is safe. -/
theorem RoundSafe.of_empty {r : Round} (hfilled : r.filled = none) (hcommitted : r.committed = none) :
    RoundSafe r :=
  ⟨fun f hf => by simp [hfilled] at hf, fun c hc => by simp [hcommitted] at hc⟩

/-- A transfer in a part that was granted is safe. -/
theorem RoundSafe.of_granted {a : CommitAnswers} {s : AudioLoop} {b : MmapBegin} {g : Granted}
    (herr : 0 ≤ b.err) (hout : b.out = some g) (hareas : s.transfer.myAreas = some g.areas)
    (hoffset : s.transfer.offset = g.offset) (hframes : s.transfer.frames = g.frames) :
    RoundSafe (commitTransfer a s (some b)).2 := by
  have hle := transferFrames_le_granted g.frames
  have hgranted : ∀ f c, Round.granted ⟨some b, f, c⟩ = some g := by
    intro f c
    simp [Round.granted, herr, hout]
  rw [commitTransfer_round, hareas, hoffset, hframes]
  generalize transferFrames g.frames = count at hle ⊢
  refine ⟨fun f hf => ?_, fun c hc => ?_⟩
  · obtain rfl := Option.some.inj hf
    exact ⟨g, hgranted _ _, rfl, Nat.le_refl _, Nat.add_le_add_left hle _⟩
  · obtain rfl := Option.some.inj hc
    exact ⟨_, g, rfl, hgranted _ _, rfl, rfl, hle⟩

/-- A transfer behind a failure is not. -/
theorem RoundSafe.not_of_failed {a : CommitAnswers} {s : AudioLoop} {b : MmapBegin}
    (herr : b.err < 0) : ¬RoundSafe (commitTransfer a s (some b)).2 := by
  rw [commitTransfer_round]
  intro hsafe
  obtain ⟨g, hg, -⟩ := hsafe.filled _ rfl
  simp [Round.granted, Int.not_le.mpr herr] at hg

theorem turnSafe_iff (periodSize : Nat) (s : AudioLoop) (a : LoopAnswers) :
    TurnSafe periodSize s a ↔ FailureEnds periodSize s a := by
  unfold TurnSafe FailureEnds audioTurn
  split
  -- a turn that the world cannot answer takes place in no run
  · exact iff_of_true nofun nofun
  · rename_i hactive
    have hdocumented : a.check.mmapBegin.Documented periodSize := by
      by_contra hnot
      exact hactive (Or.inr hnot)
    split
    -- the connection is gone, and no sample is written
    · rename_i hfailed
      refine iff_of_true (fun t r h => ?_) fun _ hne => absurd hfailed hne
      cases h
      exact .of_empty rfl rfl
    · rename_i recv hrecv
      have hmove := sndTransferCheck_move periodSize a.check s.transfer
      dsimp only
      generalize sndTransferCheck periodSize a.check s.transfer = c at hmove ⊢
      cases hmove with
      -- the check returned 0 or less, so the turn neither writes nor commits
      | stopped ret t hret hbegins =>
          refine iff_of_true (fun u r h => ?_) fun _ _ hb => absurd hb hbegins
          dsimp only at h
          split_ifs at h with hneg hzero
          · cases h
            exact .of_empty rfl rfl
          · cases h
            exact .of_empty rfl rfl
          · omega
      -- what was granted is what is filled and committed
      | granted c hbegins herr hret hbegun hout =>
          refine iff_of_true (fun u r h => ?_) fun _ _ _ hneg => absurd hneg (Int.not_lt.mpr herr)
          obtain ⟨g, hg, -⟩ := (Option.any_eq_true _ _).mp (hdocumented herr)
          obtain ⟨hareas, hoffset, hframes⟩ := hout g hg
          rw [hret, hbegun] at h
          obtain ⟨-, rfl⟩ := Prod.mk.inj (Option.some.inj h)
          exact RoundSafe.of_granted herr hg hareas hoffset hframes
      | failed c hbegins herr hret hbegun =>
          by_cases hrecovery : xrunRecovery a.check.recovery a.check.mmapBegin.err < 0
          · rw [if_pos hrecovery] at hret
            refine iff_of_true (fun u r h => ?_) fun _ _ _ _ => hrecovery
            rw [if_pos (by rwa [hret])] at h
            cases h
            exact .of_empty rfl rfl
          · rw [if_neg hrecovery] at hret
            refine iff_of_false (fun h => ?_) fun h => hrecovery (h ?_ hrecv hbegins herr)
            · rw [hret, hbegun] at h
              exact RoundSafe.not_of_failed herr (h _ _ rfl)
            · rw [hret, hbegun]
              rfl

/-! ### Runs -/

/-- **Samples only go where they may exactly when no failure to begin is recovered
    from.**  For every sequence of answers: each turn writes and commits only in the
    part that was granted in it, and as many samples as it wrote, if and only if
    whenever `snd_pcm_mmap_begin` fails, so does its recovery. -/
theorem transfers_granted_iff (periodSize : Nat) (m : Memory Int16) (as : List LoopAnswers) :
    Along (Step periodSize) (TurnSafe periodSize) (AudioLoop.init m) as ↔
      Along (Step periodSize) (FailureEnds periodSize) (AudioLoop.init m) as :=
  @along_iff _ _ _ (fun _ => True) _ _ _ _ (fun _ _ _ _ _ _ => trivial)
    (fun s a _ => turnSafe_iff periodSize s a) trivial

/-- ALSA has room for a period, but an underrun comes in between. -/
def underrun : LoopAnswers where
  recv := .nothing
  check := ⟨.other 2, ⟨0, fun _ => 0⟩, 640, 0, 0, ⟨-EPIPE, none⟩, ⟨0, fun _ => 0⟩⟩
  commit := ⟨320, ⟨0, fun _ => 0⟩⟩

/-- The underrun is recovered from, and a period is filled that nobody granted. -/
theorem transfers_ungranted :
    ¬ ∀ (periodSize : Nat) (m : Memory Int16) (as : List LoopAnswers),
      Along (Step periodSize) (TurnSafe periodSize) (AudioLoop.init m) as := by
  intro h
  have hturn : ∃ t r, audioTurn 320 (AudioLoop.init fun _ => 0) underrun = some (t, r) ∧
      r.filled = some ⟨none, 0, 320⟩ ∧ r.granted = none := ⟨_, _, rfl, by decide, by decide⟩
  obtain ⟨t, r, hr, hfilled, hgranted⟩ := hturn
  have hsafe := h 320 (fun _ => 0) [underrun] [] underrun _ (List.prefix_refl _) (Run.nil _) t r hr
  obtain ⟨g, hg, -⟩ := hsafe.filled _ hfilled
  rw [hgranted] at hg
  cases hg

/-! ### What becomes of the samples

Every turn of this loop is one of the loop over packets and transfers, with the counts
that ALSA has granted. -/

/-- Packets and transfers lead from one state of `decode_buf` to the other. -/
def Played (audio audio' : AudioState) : Prop :=
  ∃ acts : List AudioAct, audio' = acts.foldl audioStep audio

theorem Played.refl (audio : AudioState) : Played audio audio := ⟨[], rfl⟩

theorem Played.single (audio : AudioState) (act : AudioAct) : Played audio (audioStep audio act) :=
  ⟨[act], rfl⟩

theorem Played.trans {audio audio' audio'' : AudioState} (h : Played audio audio')
    (h' : Played audio' audio'') : Played audio audio'' := by
  obtain ⟨acts, rfl⟩ := h
  obtain ⟨acts', rfl⟩ := h'
  exact ⟨acts ++ acts', (List.foldl_append ..).symm⟩

theorem Received.played (audio : AudioState) (recv : Received) :
    Played audio (recv.play audio) := by
  cases recv with
  | packet p => exact .single audio (.packet p)
  | failed => exact .refl audio
  | nothing => exact .refl audio

theorem playTransfer_played (audio : AudioState) (granted : Nat) :
    Played audio (playTransfer audio granted) := by
  unfold playTransfer
  split
  · exact .single audio (.transfer _)
  · exact .refl audio

theorem commitTransfer_played (a : CommitAnswers) (s : AudioLoop) (begun : Option MmapBegin) :
    Played s.audio (commitTransfer a s begun).1.audio := by
  simp only [commitTransfer]
  split
  · exact .refl _
  · exact playTransfer_played _ _

theorem Step.played {periodSize : Nat} {s t : AudioLoop} {a : LoopAnswers}
    (h : Step periodSize s a t) : Played s.audio t.audio := by
  obtain ⟨⟨t', r⟩, hturn, rfl⟩ := Option.map_eq_some_iff.mp h
  unfold audioTurn at hturn
  split at hturn
  · cases hturn
  · split at hturn
    · cases hturn
      exact .refl _
    · rename_i recv _
      have hrecv := Received.played s.audio a.recv
      dsimp only at hturn
      split at hturn
      · cases hturn
        exact hrecv
      · split at hturn
        · cases hturn
          exact hrecv
        · obtain ⟨hstate, -⟩ := Prod.mk.inj (Option.some.inj hturn)
          rw [← hstate]
          exact hrecv.trans (commitTransfer_played _ _ _)

/-- **The loop with ALSA does to `decode_buf` what `audioLoop` says**, so what is known
    of the samples there holds here. -/
theorem run_audioLoop {periodSize : Nat} {m : Memory Int16} {as : List LoopAnswers} {s : AudioLoop}
    (h : Run (Step periodSize) (AudioLoop.init m) as s) : ∃ acts, s.audio = audioLoop m acts := by
  have hplayed : Played (AudioState.init m) s.audio :=
    @Run.invariant _ _ _ (fun s => Played (AudioState.init m) s.audio) _ _ _
      (fun _ _ _ hs hstep => hs.trans hstep.played) (Played.refl _) h
  obtain ⟨acts, hacts⟩ := hplayed
  exact ⟨acts, hacts⟩

end DroidCam.AudioTransfer
