import DroidCam.VideoOwnership

/-
  DroidCam/VideoLifetime.lean
  ===========================
  How long the decoder's buffers and handles live.

  `decoder_prepare_video` allocates them for a session and `decoder_cleanup`
  releases them, both on the video thread; `process_frame` and
  `decoder_share_frame` use them on the decode thread, and nothing makes one wait
  for the other.  `resources_live_iff` says exactly which steps may not be taken
  for every frame to be decoded with the objects of its own session.
-/

namespace DroidCam.VideoThreads

open LabelledRun
open DroidCam.JpgDecoder DroidCam.Queue

variable {numFrames : Nat}

/-! ### Sessions

Every pointer, and every frame that was filled, is stamped with the session it is from.
Between two sessions nothing is allocated, so what a frame finds is either of its own
session or not there. -/

/-- No session is open. -/
def VideoPc.closed : VideoPc numFrames → Bool
  | .serverWait | .request | .header | .prepareHeader | .ended => true
  | _ => false

/-- A session is being opened and has received nothing. -/
def VideoPc.opening : VideoPc numFrames → Bool
  | .prepareTj | .prepareTjXform | .prepareInBuf | .prepareDecodeBuf => true
  | .prepareWebcamBuf | .prepareSwc | .prepareFrames _ => true
  | _ => false

/-- `decoder_prepare_video` has got `tj`. -/
def VideoPc.tjOpen : VideoPc numFrames → Bool
  | .prepareTjXform | .prepareInBuf | .prepareDecodeBuf => true
  | .prepareWebcamBuf | .prepareSwc | .prepareFrames _ => true
  | pc => pc.streaming

/-- It has got `tjXform` as well. -/
def VideoPc.tjXformOpen : VideoPc numFrames → Bool
  | .prepareInBuf | .prepareDecodeBuf | .prepareWebcamBuf | .prepareSwc | .prepareFrames _ => true
  | pc => pc.streaming

/-- It has decided whether to scale. -/
def VideoPc.swcOpen : VideoPc numFrames → Bool
  | .prepareFrames _ => true
  | pc => pc.streaming

/-- The frame the video thread has received and not put down. -/
def VideoPc.filled : VideoPc numFrames → Option (Fin numFrames)
  | .push f | .pushLimit f | .pushReceive f | .pushDecode f => some f
  | _ => none

/-- `tj` and `tjXform` belong to the session, and so does `swc` if it scales. -/
def VideoState.HandlesOpen (s : VideoState numFrames) : Prop :=
  s.resources .tj = some s.session ∧ s.resources .tjXform = some s.session ∧
    (s.scaling = true → s.resources .swc = some s.session)

/-- What holds of the resources and the session numbers in every reachable state. -/
structure Stamped (s : VideoState numFrames) : Prop where
  stamp : ∀ r, s.resources r = none ∨ s.resources r = some s.session
  past : ∀ f, s.frameSession f ≤ s.session
  closed : s.vpc.closed = true → (∀ r, s.resources r = none) ∧ s.decodeQueue = []
  opening : s.vpc.opening = true → (∀ f, s.frameSession f < s.session) ∧ s.decodeQueue = []
  tj : s.vpc.tjOpen = true → s.resources .tj = some s.session
  tjXform : s.vpc.tjXformOpen = true → s.resources .tjXform = some s.session
  swc : s.vpc.swcOpen = true → s.scaling = true → s.resources .swc = some s.session
  queued : ∀ f ∈ s.decodeQueue, s.frameSession f = s.session
  filled : ∀ f, s.vpc.filled = some f → s.frameSession f = s.session
  usable : s.decodeQueue ≠ [] → s.resources .inBuf ≠ none → s.HandlesOpen
  cleaning : ∀ todo, s.vpc = .cleanup todo → todo <:+ decoderCleanup ∧
    (∀ r, .free r ∈ todo ∨ s.resources r = none) ∧ (.clearDecode ∈ todo ∨ s.decodeQueue = []) ∧
    (s.resources .inBuf ≠ none → todo = decoderCleanup)

theorem Stamped.init (fd : Int) (dec : JpgDecCtx) :
    Stamped (VideoState.init numFrames fd dec) where
  stamp := fun r => Or.inl rfl
  past := fun f => le_refl _
  closed := fun _ => ⟨fun r => rfl, rfl⟩
  opening := fun h => by cases h
  tj := fun h => by cases h
  tjXform := fun h => by cases h
  swc := fun h => by cases h
  queued := fun f h => by cases h
  filled := fun f h => by cases h
  usable := fun h => absurd rfl h
  cleaning := fun todo h => by cases h

theorem allocate_resources (s : VideoState numFrames) (r r' : Resource) (ok : Bool) :
    (s.allocate r ok).resources r' =
      if r' = r then (if ok then some s.session else none) else s.resources r' := by
  by_cases h : r' = r
  · subst h; simp [VideoState.allocate]
  · simp [VideoState.allocate, h]

/-- An allocation leaves a pointer of the session or `NULL`. -/
theorem allocate_stamp {s : VideoState numFrames}
    (hs : ∀ r, s.resources r = none ∨ s.resources r = some s.session) (r : Resource) (ok : Bool) :
    ∀ r', (s.allocate r ok).resources r' = none ∨
      (s.allocate r ok).resources r' = some s.session := by
  intro r'
  rw [allocate_resources]
  by_cases h : r' = r
  · cases ok <;> simp [h]
  · simpa [h] using hs r'

/-- `decoder_cleanup` only ever sets a pointer to `NULL`. -/
theorem cleanupStep_resources (s : VideoState numFrames) (c : CleanupStep) (r : Resource) :
    (s.cleanupStep c).resources r = if c = .free r then none else s.resources r := by
  cases c with
  | free r' =>
      by_cases h : r = r'
      · subst h; simp [VideoState.cleanupStep]
      · simp [VideoState.cleanupStep, h, Ne.symm h]
  | clearReceive => simp [VideoState.cleanupStep]
  | clearDecode => simp [VideoState.cleanupStep]

theorem cleanupStep_decodeQueue (s : VideoState numFrames) (c : CleanupStep) :
    (s.cleanupStep c).decodeQueue = if c = .clearDecode then [] else s.decodeQueue := by
  cases c <;> simp [VideoState.cleanupStep, queueClear]

theorem Stamped.stamp_step {s t : VideoState numFrames} {a : VideoAct} (hs : Stamped s)
    (h : VideoMove s a t) : ∀ r, t.resources r = none ∨ t.resources r = some t.session := by
  cases h with
  | prepareHeader w h pc hpc hw hh hnext =>
      intro r
      exact Or.inl ((hs.closed (by simp [hpc, VideoPc.closed])).1 r)
  | prepareTj ok hpc => exact allocate_stamp hs.stamp .tj ok
  | prepareTjXform ok hpc => exact allocate_stamp hs.stamp .tjXform ok
  | prepareInBuf ok hpc => exact allocate_stamp hs.stamp .inBuf _
  | prepareDecodeBuf ok pc hpc hnext => exact allocate_stamp hs.stamp .decodeBuf _
  | prepareWebcamBuf ok hpc => exact allocate_stamp hs.stamp .webcamBuf _
  | prepareSwc ok hpc => exact allocate_stamp hs.stamp .swc ok
  | cleanup c todo hpc =>
      intro r
      have hsession : (s.cleanupStep c).session = s.session := by cases c <;> rfl
      show (s.cleanupStep c).resources r = none ∨ (s.cleanupStep c).resources r = _
      rw [cleanupStep_resources]
      -- a pointer that is released is NULL
      split
      · exact Or.inl rfl
      · rw [hsession]; exact hs.stamp r
  | _ => exact hs.stamp

theorem Stamped.past_step {s t : VideoState numFrames} {a : VideoAct} (hs : Stamped s)
    (h : VideoMove s a t) : ∀ f, t.frameSession f ≤ t.session := by
  cases h with
  | prepareHeader w h pc hpc hw hh hnext => exact fun f => Nat.le_succ_of_le (hs.past f)
  | payload ret bs f hpc hrecv hret =>
      intro g
      by_cases hg : g = f
      · subst hg; simp
      · simpa [hg] using hs.past g
  | cleanup c todo hpc => cases c <;> exact hs.past
  | _ => exact hs.past

theorem Stamped.closed_step {s t : VideoState numFrames} {a : VideoAct} (hs : Stamped s)
    (h : VideoMove s a t) :
    t.vpc.closed = true → (∀ r, t.resources r = none) ∧ t.decodeQueue = [] := by
  cases h with
  | resume hpc | accepted _ hpc | request _ hpc | header _ _ hpc | prepareHeader _ _ _ hpc =>
      exact fun _ => hs.closed (by simp [hpc, VideoPc.closed])
  | finish hpc =>
      -- here `decoder_cleanup` has run to its end
      intro _
      obtain ⟨-, hfreed, hcleared, -⟩ := hs.cleaning [] hpc
      exact ⟨fun r => by simpa using hfreed r, by simpa using hcleared⟩
  | _ => grind [VideoPc.closed]

theorem Stamped.opening_step {s t : VideoState numFrames} {a : VideoAct} (hs : Stamped s)
    (h : VideoMove s a t) :
    t.vpc.opening = true → (∀ f, t.frameSession f < t.session) ∧ t.decodeQueue = [] := by
  cases h with
  | prepareHeader w h pc hpc hw hh hnext =>
      intro _
      exact ⟨fun f => Nat.lt_succ_of_le (hs.past f),
        (hs.closed (by simp [hpc, VideoPc.closed])).2⟩
  | prepareTj _ hpc | prepareTjXform _ hpc | prepareInBuf _ hpc | prepareDecodeBuf _ _ hpc
  | prepareWebcamBuf _ hpc | prepareSwc _ hpc | prepareFrame _ _ hpc =>
      exact fun _ => hs.opening (by simp [hpc, VideoPc.opening])
  | _ => grind [VideoPc.opening]

theorem VideoPc.open_of_streaming {pc : VideoPc numFrames} (h : pc.streaming = true) :
    pc.tjOpen = true ∧ pc.tjXformOpen = true ∧ pc.swcOpen = true := by
  cases pc <;> first | exact ⟨rfl, rfl, rfl⟩ | cases h

theorem Stamped.handles_step {s t : VideoState numFrames} {a : VideoAct} (hs : Stamped s)
    (h : VideoMove s a t) :
    (t.vpc.tjOpen = true → t.resources .tj = some t.session) ∧
      (t.vpc.tjXformOpen = true → t.resources .tjXform = some t.session) ∧
      (t.vpc.swcOpen = true → t.scaling = true → t.resources .swc = some t.session) := by
  have hkeep : ∀ pc : VideoPc numFrames, (pc.tjOpen = true → s.vpc.streaming = true) →
      (pc.tjXformOpen = true → s.vpc.streaming = true) →
      (pc.swcOpen = true → s.vpc.streaming = true) →
      (pc.tjOpen = true → s.resources .tj = some s.session) ∧
        (pc.tjXformOpen = true → s.resources .tjXform = some s.session) ∧
        (pc.swcOpen = true → s.scaling = true → s.resources .swc = some s.session) := by
    intro pc h1 h2 h3
    exact ⟨fun hpc => hs.tj (VideoPc.open_of_streaming (h1 hpc)).1,
      fun hpc => hs.tjXform (VideoPc.open_of_streaming (h2 hpc)).2.1,
      fun hpc => hs.swc (VideoPc.open_of_streaming (h3 hpc)).2.2⟩
  cases h with
  -- a new session starts without handles, and each of these is open from the step that
  -- makes it on; one that fails leads out of the session
  | prepareHeader w h pc hpc hw hh hnext =>
      rcases hnext with rfl | rfl <;>
        simp [VideoPc.tjOpen, VideoPc.tjXformOpen, VideoPc.swcOpen, VideoPc.streaming]
  | prepareTj ok hpc =>
      cases ok <;> simp [VideoPc.tjOpen, VideoPc.tjXformOpen, VideoPc.swcOpen, VideoPc.streaming,
        VideoState.allocate]
  | prepareTjXform ok hpc =>
      have htj := hs.tj (by simp [hpc, VideoPc.tjOpen])
      cases ok <;> simp [VideoPc.tjOpen, VideoPc.tjXformOpen, VideoPc.swcOpen, VideoPc.streaming,
        VideoState.allocate, htj]
  | prepareInBuf _ hpc | prepareDecodeBuf _ _ hpc | prepareWebcamBuf _ hpc =>
      have htj := hs.tj (by simp [hpc, VideoPc.tjOpen])
      have htjXform := hs.tjXform (by simp [hpc, VideoPc.tjXformOpen])
      simp [VideoPc.swcOpen, VideoPc.streaming, VideoState.allocate, htj, htjXform]
  | prepareSwc ok hpc =>
      have htj := hs.tj (by simp [hpc, VideoPc.tjOpen])
      have htjXform := hs.tjXform (by simp [hpc, VideoPc.tjXformOpen])
      cases ok <;> simp [VideoState.allocate, htj, htjXform]
  | prepared hpc | prepareFrame _ _ hpc =>
      exact ⟨fun _ => hs.tj (by simp [hpc, VideoPc.tjOpen]),
        fun _ => hs.tjXform (by simp [hpc, VideoPc.tjXformOpen]),
        fun _ => hs.swc (by simp [hpc, VideoPc.swcOpen])⟩
  -- `decoder_cleanup` takes them away, but no point from there on needs one
  | cleanup c todo hpc =>
      simp [VideoPc.tjOpen, VideoPc.tjXformOpen, VideoPc.swcOpen, VideoPc.streaming]
  | _ =>
      apply hkeep <;> (try split) <;>
        simp [*, VideoPc.tjOpen, VideoPc.tjXformOpen, VideoPc.swcOpen, VideoPc.streaming]

theorem Stamped.queued_step {s t : VideoState numFrames} {a : VideoAct} (hs : Stamped s)
    (h : VideoMove s a t) : ∀ f ∈ t.decodeQueue, t.frameSession f = t.session := by
  cases h with
  | prepareHeader w h pc hpc hw hh hnext =>
      intro f hf
      -- no frame waits while no session is open
      have hnone := (hs.closed (by simp [hpc, VideoPc.closed])).2
      rw [show s.decodeQueue = [] from hnone] at hf
      cases hf
  -- the frame is stamped when it is received, and it is not one that waits
  | payload ret bs f hpc hrecv hret =>
      intro g hg
      by_cases hgf : g = f
      · subst hgf; simp
      · simpa [hgf] using hs.queued g hg
  | pushDecode f hpc =>
      intro g hg
      rcases List.mem_append.mp hg with hg | hg
      · exact hs.queued g hg
      · obtain rfl : g = f := List.mem_singleton.mp hg
        exact hs.filled g (by simp [hpc, VideoPc.filled])
  | cleanup c todo hpc =>
      cases c with
      | clearDecode => intro f hf; cases hf
      | free r => exact hs.queued
      | clearReceive => exact hs.queued
  | _ => exact hs.queued

theorem Stamped.filled_step {s t : VideoState numFrames} {a : VideoAct} (hs : Stamped s)
    (h : VideoMove s a t) : ∀ f, t.vpc.filled = some f → t.frameSession f = t.session := by
  cases h with
  | payload ret bs f hpc hrecv hret =>
      intro g hg
      obtain rfl : f = g := by simpa [VideoPc.filled] using hg
      simp
  | push _ hpc | pushLimit _ hpc =>
      intro g hg
      apply hs.filled g
      grind [VideoPc.filled]
  | _ => grind [VideoPc.filled]

/-- While frames of the session are queued, either its handles are open or `m_inBuf` is
    already gone. -/
theorem Stamped.usable_step {s t : VideoState numFrames} {a : VideoAct} (hs : Stamped s)
    (h : VideoMove s a t) : t.decodeQueue ≠ [] → t.resources .inBuf ≠ none → t.HandlesOpen := by
  -- until the loop is entered nothing of this session waits, and nothing of an earlier
  -- one does
  have hquiet : s.vpc.opening = true → s.decodeQueue = [] := fun hpc => (hs.opening hpc).2
  cases h with
  | prepareHeader w h pc hpc hw hh hnext =>
      intro hne
      exact absurd (hs.closed (by simp [hpc, VideoPc.closed])).2 hne
  | prepareTj ok hpc => exact fun hne => absurd (hquiet (by simp [hpc, VideoPc.opening])) hne
  | prepareTjXform ok hpc => exact fun hne => absurd (hquiet (by simp [hpc, VideoPc.opening])) hne
  | prepareInBuf ok hpc => exact fun hne => absurd (hquiet (by simp [hpc, VideoPc.opening])) hne
  | prepareDecodeBuf ok pc hpc hnext =>
      intro hne
      exact absurd (hquiet (by simp [hpc, VideoPc.opening])) hne
  | prepareWebcamBuf ok hpc =>
      intro hne
      exact absurd (hquiet (by simp [hpc, VideoPc.opening])) hne
  | prepareSwc ok hpc => exact fun hne => absurd (hquiet (by simp [hpc, VideoPc.opening])) hne
  | pushDecode f hpc =>
      intro _ _
      have hstreaming : s.vpc.streaming = true := by simp [hpc, VideoPc.streaming]
      obtain ⟨htj, htjXform, hswc⟩ := VideoPc.open_of_streaming hstreaming
      exact ⟨hs.tj htj, hs.tjXform htjXform, hs.swc hswc⟩
  | cleanup c todo hpc =>
      -- the first thing released is m_inBuf
      intro hne hlive
      obtain ⟨hsuffix, hfreed, -, hfirst⟩ := hs.cleaning _ hpc
      have hlive' : (s.cleanupStep c).resources .inBuf ≠ none := hlive
      rw [cleanupStep_resources] at hlive'
      split at hlive'
      · exact absurd rfl hlive'
      · rename_i hc
        have hall := hfirst hlive'
        simp only [decoderCleanup, List.cons.injEq] at hall
        exact absurd hall.1 hc
  | _ => exact hs.usable

theorem Stamped.cleaning_step {s t : VideoState numFrames} {a : VideoAct} (hs : Stamped s)
    (h : VideoMove s a t) : ∀ todo, t.vpc = .cleanup todo → todo <:+ decoderCleanup ∧
      (∀ r, .free r ∈ todo ∨ t.resources r = none) ∧ (.clearDecode ∈ todo ∨ t.decodeQueue = []) ∧
      (t.resources .inBuf ≠ none → todo = decoderCleanup) := by
  cases h with
  -- the list of what has to be released is whole when decoder_cleanup begins
  | earlyOut f hpc =>
      intro todo htodo
      obtain rfl : decoderCleanup = todo := by simpa using htodo
      refine ⟨List.suffix_refl _, fun r => Or.inl ?_, Or.inl ?_, fun _ => rfl⟩
      · cases r <;> simp [decoderCleanup]
      · simp [decoderCleanup]
  | cleanup c rest hpc =>
      intro todo htodo
      obtain rfl : rest = todo := by simpa using htodo
      obtain ⟨hsuffix, hfreed, hcleared, hfirst⟩ := hs.cleaning _ hpc
      refine ⟨(List.suffix_cons c rest).trans hsuffix, ?_, ?_, ?_⟩
      · intro r
        show _ ∨ (s.cleanupStep c).resources r = none
        rw [cleanupStep_resources]
        by_cases hc : c = .free r
        · exact Or.inr (if_pos hc)
        · rw [if_neg hc]
          exact (hfreed r).imp_left fun hmem => (List.mem_cons.mp hmem).resolve_left (Ne.symm hc)
      · show _ ∨ (s.cleanupStep c).decodeQueue = []
        rw [cleanupStep_decodeQueue]
        by_cases hc : c = .clearDecode
        · exact Or.inr (if_pos hc)
        · rw [if_neg hc]
          exact hcleared.imp_left fun hmem => (List.mem_cons.mp hmem).resolve_left (Ne.symm hc)
      · intro hlive
        have hlive' : (s.cleanupStep c).resources .inBuf ≠ none := hlive
        rw [cleanupStep_resources] at hlive'
        split at hlive'
        · exact absurd rfl hlive'
        -- m_inBuf is released first, so as long as it is there nothing was
        · rename_i hc
          have hall := hfirst hlive'
          simp only [decoderCleanup, List.cons.injEq] at hall
          exact absurd hall.1 hc
  | _ => grind

theorem Stamped.step {s t : VideoState numFrames} {a : Act} (hs : Stamped s) (h : Step s a t) :
    Stamped t := by
  cases h.move with
  | video a _ hmove =>
      obtain ⟨htj, htjXform, hswc⟩ := hs.handles_step hmove
      exact ⟨hs.stamp_step hmove, hs.past_step hmove, hs.closed_step hmove, hs.opening_step hmove,
        htj, htjXform, hswc, hs.queued_step hmove, hs.filled_step hmove, hs.usable_step hmove,
        hs.cleaning_step hmove⟩
  | decode a _ hmove =>
      -- the decode thread allocates nothing and only takes frames away
      obtain ⟨hvpc, -, hres, -, -, hsession, hscaling, hfs, -⟩ := hmove.frame
      have hsuffix := hmove.queues.2
      have hnil : s.decodeQueue = [] → t.decodeQueue = [] := fun hs =>
        List.suffix_nil.mp (hs ▸ hsuffix)
      refine ⟨?_, ?_, ?_, ?_, ?_, ?_, ?_, ?_, ?_, ?_, ?_⟩
      · rw [hres, hsession]; exact hs.stamp
      · rw [hfs, hsession]; exact hs.past
      · rw [hvpc, hres]; exact fun hc => ⟨(hs.closed hc).1, hnil (hs.closed hc).2⟩
      · rw [hvpc, hfs, hsession]; exact fun ho => ⟨(hs.opening ho).1, hnil (hs.opening ho).2⟩
      · rw [hvpc, hres, hsession]; exact hs.tj
      · rw [hvpc, hres, hsession]; exact hs.tjXform
      · rw [hvpc, hscaling, hres, hsession]; exact hs.swc
      · rw [hfs, hsession]; exact fun f hf => hs.queued f (hsuffix.subset hf)
      · rw [hvpc, hfs, hsession]; exact hs.filled
      · rw [hres, VideoState.HandlesOpen, hres, hsession, hscaling]
        intro hne
        exact hs.usable fun hs => hne (hnil hs)
      · rw [hvpc, hres]
        intro todo htodo
        obtain ⟨h1, h2, h3, h4⟩ := hs.cleaning todo htodo
        exact ⟨h1, h2, h3.imp_right hnil, h4⟩
  | stop =>
      exact ⟨hs.stamp, hs.past, hs.closed, hs.opening, hs.tj, hs.tjXform, hs.swc, hs.queued,
        hs.filled, hs.usable, hs.cleaning⟩
  | start conn hvpc hdpc =>
      have hclosed := hs.closed (by simp [hvpc, VideoPc.closed])
      refine ⟨hs.stamp, hs.past, fun _ => hclosed, ?_, ?_, ?_, ?_, hs.queued, ?_, hs.usable, ?_⟩ <;>
        simp [VideoPc.opening, VideoPc.tjOpen, VideoPc.tjXformOpen, VideoPc.swcOpen,
          VideoPc.streaming, VideoPc.filled]
  | flip _ op _ =>
      exact ⟨hs.stamp, hs.past, hs.closed, hs.opening, hs.tj, hs.tjXform, hs.swc, hs.queued,
        hs.filled, hs.usable, hs.cleaning⟩

/-! ### Frames in progress

process_frame uses the buffers without asking whether the session still goes on. Only
two steps can take them away under it: the first one of decoder_cleanup, and a pull
behind it. -/

/-- What `process_frame` and `decoder_share_frame` use is live, and of the session in
    which `f` was received. -/
def VideoState.UsesLive (s : VideoState numFrames) (f : Fin numFrames) : Prop :=
  (∀ r ∈ [Resource.inBuf, .decodeBuf, .tj, .tjXform], s.resources r = some (s.frameSession f)) ∧
    (s.scaling = true → ∀ r ∈ [Resource.swc, .webcamBuf], s.resources r = some (s.frameSession f))

def InUseLive (s : VideoState numFrames) : Prop :=
  ∀ f point, s.dpc = .process f point → s.UsesLive f

/-- The next step of `decoder_cleanup` is its first one. -/
def VideoPc.releasing : VideoPc numFrames → Bool
  | .cleanup (.free .inBuf :: _) => true
  | _ => false

/-- `process_frame` is running. -/
def DecodePc.processing : DecodePc numFrames → Bool
  | .process _ _ => true
  | _ => false

/-- `decoder_cleanup` starts to release when no frame is being processed, and a frame
    is only taken while the buffers are there. -/
def NotOvertaken (s : VideoState numFrames) (a : Act) : Prop :=
  (s.vpc.releasing = true → a = .video .go → s.dpc.processing = false) ∧
  (s.dpc = .pull → a = .decode .go → s.decoder.mBufferLimit < s.decodeQueue.length →
    s.resources .inBuf ≠ none ∧ s.resources .decodeBuf ≠ none ∧
      (s.scaling = true → s.resources .webcamBuf ≠ none))

instance (s : VideoState numFrames) (a : Act) : Decidable (NotOvertaken s a) :=
  inferInstanceAs (Decidable ((_ → _ → _) ∧ (_ → _ → _ → _)))

theorem NotOvertaken.other {s : VideoState numFrames} {a : Act} (hvideo : a ≠ .video .go)
    (hdecode : a ≠ .decode .go) : NotOvertaken s a :=
  ⟨fun _ ha => absurd ha hvideo, fun _ ha => absurd ha hdecode⟩

theorem UsesLive.congr {s t : VideoState numFrames} {f : Fin numFrames}
    (hres : t.resources = s.resources) (hscaling : t.scaling = s.scaling)
    (hsession : t.frameSession f = s.frameSession f) : t.UsesLive f ↔ s.UsesLive f := by
  simp only [VideoState.UsesLive, hres, hscaling, hsession]

theorem Stamped.of_ne_none {s : VideoState numFrames} (hs : Stamped s) {r : Resource}
    (h : s.resources r ≠ none) : s.resources r = some s.session :=
  (hs.stamp r).resolve_left h

/-- A queued frame finds everything in place exactly when the buffers are there. -/
theorem Stamped.usesLive_iff {s : VideoState numFrames} (hs : Stamped s) {f : Fin numFrames}
    (hf : f ∈ s.decodeQueue) :
    s.UsesLive f ↔ s.resources .inBuf ≠ none ∧ s.resources .decodeBuf ≠ none ∧
      (s.scaling = true → s.resources .webcamBuf ≠ none) := by
  have hsession := hs.queued f hf
  constructor
  · rintro ⟨hlive, hscale⟩
    refine ⟨?_, ?_, fun hscaling => ?_⟩
    · rw [hlive .inBuf (by simp)]; simp
    · rw [hlive .decodeBuf (by simp)]; simp
    · rw [hscale hscaling .webcamBuf (by simp)]; simp
  · rintro ⟨hin, hdecode, hwebcam⟩
    obtain ⟨htj, htjXform, hswc⟩ := hs.usable (List.ne_nil_of_mem hf) hin
    refine ⟨?_, fun hscaling => ?_⟩ <;> rw [hsession]
    · simp [hs.of_ne_none hin, hs.of_ne_none hdecode, htj, htjXform]
    · simp [hs.of_ne_none (hwebcam hscaling), hswc hscaling]

/-- While a frame is processed with its own resources, the video thread streams, is
    about to clean up, or has not begun to release. -/
theorem Stamped.of_processing {s : VideoState numFrames} (hs : Stamped s) {f : Fin numFrames}
    (h : s.UsesLive f) : s.vpc.closed = false ∧ s.vpc.opening = false ∧
      (∀ todo, s.vpc = .cleanup todo → todo = decoderCleanup) ∧ s.frameSession f = s.session := by
  have hin : s.resources .inBuf = some (s.frameSession f) := h.1 .inBuf (by simp)
  have hlive : s.resources .inBuf ≠ none := by simp [hin]
  have hsession : s.frameSession f = s.session := by
    have hstamp := hs.of_ne_none hlive
    rw [hin] at hstamp
    exact Option.some.inj hstamp
  refine ⟨?_, ?_, ?_, hsession⟩
  · by_contra hclosed
    exact hlive ((hs.closed (by simpa using hclosed)).1 .inBuf)
  · by_contra hopening
    have hlt := (hs.opening (by simpa using hopening)).1 f
    omega
  · intro todo htodo
    exact (hs.cleaning todo htodo).2.2.2 hlive

theorem InUseLive.videoMove_iff {s t : VideoState numFrames} {a : VideoAct} (haux : Stamped s)
    (hs : InUseLive s) (h : VideoMove s a t) : InUseLive t ↔ NotOvertaken s (.video a) := by
  have hdpc : t.dpc = s.dpc := by
    cases h with
    | cleanup c todo hpc => cases c <;> rfl
    | _ => rfl
  by_cases hprocessing : ∃ f point, s.dpc = .process f point
  · obtain ⟨f, point, hf⟩ := hprocessing
    have hlive := hs f point hf
    -- while everything is live decoder_cleanup has released nothing
    obtain ⟨hclosed, hopening, hcleanup, hsession⟩ := haux.of_processing hlive
    have hiff : InUseLive t ↔ t.UsesLive f := by
      simp only [InUseLive, hdpc, hf, DecodePc.process.injEq]
      exact ⟨fun ht => ht f point ⟨rfl, rfl⟩, fun ht g p hg => hg.1 ▸ ht⟩
    have hok : s.vpc.releasing = false → NotOvertaken s (.video a) :=
      fun hpc => ⟨fun hrel => absurd hrel (by simp [hpc]), fun _ hdecode => by cases hdecode⟩
    rw [hiff]
    have hsame : t.resources = s.resources → t.scaling = s.scaling →
        t.frameSession f = s.frameSession f → s.vpc.releasing = false →
          (t.UsesLive f ↔ NotOvertaken s (.video a)) := fun h1 h2 h3 h4 =>
      ⟨fun _ => hok h4, fun _ => (UsesLive.congr h1 h2 h3).mpr hlive⟩
    cases h with
    | payload ret bs g hpc hrecv hret =>
        refine hsame rfl rfl ?_ (by simp [hpc, VideoPc.releasing])
        by_cases hfg : f = g
        · subst hfg; simpa using hsession.symm
        · simp [hfg]
    | cleanup c todo hpc =>
        have hall := hcleanup _ hpc
        simp only [decoderCleanup, List.cons.injEq] at hall
        obtain ⟨rfl, rfl⟩ := hall
        constructor
        -- with m_inBuf gone the frame in hand has lost its buffer
        · intro ht
          have hfreed := ht.1 .inBuf (by simp)
          simp [VideoState.cleanupStep] at hfreed
        · intro hguard
          have hidle := hguard.1 (by simp [hpc, VideoPc.releasing]) rfl
          simp [hf, DecodePc.processing] at hidle
    | finish hpc => exact absurd (hcleanup _ hpc) (by simp [decoderCleanup])
    | _ =>
        first
        | exact hsame rfl rfl rfl (by simp_all [VideoPc.releasing])
        | simp_all [VideoPc.closed, VideoPc.opening]
  -- no frame is in hand, so none can lose its buffers, and the condition asks nothing
  · have hnone : s.dpc.processing = false := by
      cases hd : s.dpc <;> simp_all [DecodePc.processing]
    constructor
    · intro _
      exact ⟨fun _ _ => hnone, fun _ hdecode => by cases hdecode⟩
    · intro _ f point hf
      exact absurd ⟨f, point, hdpc ▸ hf⟩ hprocessing

theorem InUseLive.decodeMove_iff {s t : VideoState numFrames} {a : DecodeAct} (haux : Stamped s)
    (hs : InUseLive s) (h : DecodeMove s a t) : InUseLive t ↔ NotOvertaken s (.decode a) := by
  have hframe := h.frame
  have hcongr : ∀ f, t.UsesLive f ↔ s.UsesLive f := fun f =>
    UsesLive.congr hframe.resources hframe.scaling (by rw [hframe.frameSession])
  have hgoes : (∀ f point, t.dpc = .process f point → ∃ point', s.dpc = .process f point') →
      (s.dpc = .pull → s.decodeQueue.length ≤ s.decoder.mBufferLimit) →
        (InUseLive t ↔ NotOvertaken s (.decode a)) := by
    intro hfrom hlimit
    constructor
    · intro _
      exact ⟨fun _ hvideo => absurd hvideo (by simp), fun hpull _ hlt => absurd (hlimit hpull) (by omega)⟩
    · intro _ f point hf
      obtain ⟨point', hf'⟩ := hfrom f point hf
      exact (hcongr f).mpr (hs f point' hf')
  cases h with
  | pull f rest hpc hqueue hlimit =>
      have hmem : f ∈ s.decodeQueue := by simp [hqueue]
      have hiff : InUseLive { s with decodeQueue := rest, dpc := .process f .header } ↔
          s.UsesLive f := by
        simp only [InUseLive, DecodePc.process.injEq]
        exact ⟨fun ht => (hcongr f).mp (ht f .header ⟨rfl, rfl⟩),
          fun ht g p hg => hg.1 ▸ (hcongr f).mpr ht⟩
      -- the frame was stamped when it was pushed, so it is of the session whose buffers
      -- are there
      rw [hiff, haux.usesLive_iff hmem]
      exact ⟨fun hbuffers => ⟨fun _ hvideo => absurd hvideo (by simp), fun _ _ _ => hbuffers⟩,
        fun hguard => hguard.2 hpc rfl hlimit⟩
  | loop hpc => exact hgoes (by cases s.vRunning <;> simp) (by simp [hpc])
  | pullNone hpc hlimit => exact hgoes (by simp) (fun _ => hlimit)
  | transform ok out f hpc hop hout =>
      refine hgoes ?_ (by simp [hpc])
      cases ok <;> simp [hpc]
  | decompress ok f hpc =>
      refine hgoes ?_ (by simp [hpc])
      cases ok <;> simp [hpc]
  | _ => exact hgoes (by simp_all) (by simp_all)

/-- **Every frame is decoded with the live resources of its own session exactly in
    the runs where `decoder_cleanup` never starts to release under a frame in
    progress** and no frame is taken without the buffers. -/
theorem resources_live_iff (fd : Int) (dec : JpgDecCtx) {as : List Act}
    {s : VideoState numFrames} (h : Run Step (VideoState.init numFrames fd dec) as s) :
    (∀ bs u, bs <+: as → Run Step (VideoState.init numFrames fd dec) bs u → InUseLive u) ↔
      Run (Guarded NotOvertaken Step) (VideoState.init numFrames fd dec) as s := by
  refine Run.guarded_iff (ofNext_deterministic next) (fun _ _ _ hs hstep => hs.step hstep) ?_
    (Stamped.init fd dec) (fun f point hf => by cases hf) h
  intro s a t haux hs hstep
  cases Step.move hstep with
  | video a _ hmove => exact InUseLive.videoMove_iff haux hs hmove
  | decode a _ hmove => exact InUseLive.decodeMove_iff haux hs hmove
  | stop => exact ⟨fun _ => NotOvertaken.other (by simp) (by simp), fun _ => hs⟩
  | start conn hvpc hdpc =>
      exact ⟨fun _ => NotOvertaken.other (by simp) (by simp), fun _ f point hf => by cases hf⟩
  | flip _ op ha =>
      refine ⟨fun _ => NotOvertaken.other ?_ ?_, fun _ => hs⟩ <;>
        rcases ha with rfl | rfl <;> simp

/-- One frame of the first session, which the decode thread has given up at its header
    before the connection breaks. -/
theorem resources_live_one_frame :
    ∃ s, Run Step pipelineInit (startSession (streamOf4x4 20) ++ receiveAndDecode 20 ++
        giveUpFrame.take 2 ++ List.replicate 3 (.video .go) ++ [.video (.recv 0)] ++
        List.replicate 10 (.video .go)) s ∧ InUseLive s := by
  obtain ⟨s, hs, -⟩ := Option.map_eq_some_iff.mp (by decide +kernel :
    (execute (guard NotOvertaken next) pipelineInit (startSession (streamOf4x4 20) ++
      receiveAndDecode 20 ++ giveUpFrame.take 2 ++ List.replicate 3 (.video .go) ++
      [.video (.recv 0)] ++ List.replicate 10 (.video .go))).map (fun s => s.vpc) = some .ended)
  have hguard := Run.of_execute_guard hs
  have hrun := hguard.of_guarded
  exact ⟨s, hrun, (resources_live_iff 1 (decoderInit 320 240) hrun).mpr hguard _ s
    (List.prefix_refl _) hrun⟩

/-- The connection breaks while the decode thread is in `process_frame`. -/
theorem resources_released_in_use :
    ¬ ∀ as (s : VideoState JPG_BACKBUF_MAX), Run Step pipelineInit as s → InUseLive s := by
  intro h
  obtain ⟨s, hs, hvalues⟩ := Option.map_eq_some_iff.mp (by decide +kernel :
    (execute next pipelineInit (startSession (streamOf4x4 20) ++ receiveAndDecode 20 ++
      List.replicate 3 (.video .go) ++ [.video (.recv 0)] ++ List.replicate 2 (.video .go))).map
      (fun s => (s.dpc, s.resources .inBuf)) = some (.process 0 .header, none))
  simp only [Prod.mk.injEq] at hvalues
  obtain ⟨hdpc, hfreed⟩ := hvalues
  have hlive := (h _ s (Run.of_execute hs) 0 .header hdpc).1 .inBuf (by simp)
  rw [hfreed] at hlive
  cases hlive

end DroidCam.VideoThreads
