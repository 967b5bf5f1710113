import DroidCam.VideoDelivery

/-
  DroidCam/VideoFraming.lean
  ==========================
  The byte stream of a video connection: a 9-byte header, then frames, each a
  4-byte little-endian length and that many bytes of payload.

  `VideoThreadProc` reads it with `RecvAll` and takes every positive result for a
  complete read.  `frames_pushed_whole` says that what it pushes follows the stream
  as long as every positive result is the number of bytes asked for, the way `Send`
  makes sure of in its loop, and no descriptor of an earlier connection was left over.
-/

namespace DroidCam.VideoThreads

open ByteMemory LabelledRun
open DroidCam.JpgDecoder DroidCam.Queue

variable {numFrames : Nat}

/-! ### The stream -/

/-- Four bytes, the least significant first. -/
def le32Bytes (n : Nat) : List UInt8 :=
  [UInt8.ofNat n, UInt8.ofNat (n / 256), UInt8.ofNat (n / 65536), UInt8.ofNat (n / 16777216)]

def encodeFrame (p : List UInt8) : List UInt8 := le32Bytes p.length ++ p

/-- The frames of a stream, back to back. -/
def encodeFrames (frames : List (List UInt8)) : List UInt8 := frames.flatMap encodeFrame

@[simp] theorem encodeFrames_cons (p : List UInt8) (frames : List (List UInt8)) :
    encodeFrames (p :: frames) = le32Bytes p.length ++ (p ++ encodeFrames frames) := by
  simp [encodeFrames, encodeFrame]

/-- `le32toh` reads back what was written over the front of the buffer. -/
theorem le32_overwrite (buf : List UInt8) {n : Nat} (h : n < 4294967296) :
    le32 (overwrite buf (le32Bytes n)) = n := by
  simp only [overwrite, le32Bytes, le32, List.cons_append, List.getD_cons_zero,
    List.getD_cons_succ, UInt8.toNat_ofNat']
  omega

/-! ### Reads

RecvAll gives back what recv returned, and its callers only look at the sign. So a read
is taken for complete when its result is positive, and the claim is about the reads that
were taken. -/

/-- What the `recv` at this point of `VideoThreadProc` asks for. -/
def VideoState.requested (s : VideoState numFrames) : Int :=
  match s.vpc with
  | .header => 9
  | .length _ => 4
  | .payload f => (s.frames f).length
  | _ => 0

/-- Every `recv` that delivers something delivers all that was asked for. -/
def FullReads (s : VideoState numFrames) (a : Act) : Prop :=
  ∀ ret, a = .video (.recv ret) → ret ≤ 0 ∨ ret = s.requested

/-- All reads taken as complete were. -/
def VideoState.TakenWhole (s : VideoState numFrames) : Prop :=
  ∀ read ∈ s.taken, (read.2 : Int) = read.1

/-- The steps until `decoder_cleanup`, where each payload of the stream fits the slot
    of the descriptor that receives it. -/
def InStream (s : VideoState numFrames) (a : Act) : Prop :=
  match s.vpc, a with
  | .earlyOut _, .video _ => False
  | .payload f, .video (.recv _) => s.TakenWhole → s.Fits f
  | _, _ => True

instance (s : VideoState numFrames) : Decidable s.TakenWhole :=
  inferInstanceAs (Decidable (∀ read ∈ s.taken, _))

instance (s : VideoState numFrames) (f : Fin numFrames) : Decidable (s.Fits f) :=
  inferInstanceAs (Decidable (SpanInSlot _ _ _ _ _))

/-- `InStream`, computed. -/
def inStream (s : VideoState numFrames) (a : Act) : Bool :=
  match s.vpc, a with
  | .earlyOut _, .video _ => false
  | .payload f, .video (.recv _) => decide (s.TakenWhole → s.Fits f)
  | _, _ => true

theorem inStream_iff {s : VideoState numFrames} {a : Act} :
    inStream s a = true ↔ InStream s a := by
  unfold inStream InStream
  split
  · exact iff_of_false Bool.false_ne_true not_false
  · exact decide_eq_true_iff
  · exact iff_of_true rfl trivial

instance (s : VideoState numFrames) (a : Act) : Decidable (InStream s a) :=
  decidable_of_iff _ inStream_iff

/-- The video thread has got its connection. -/
structure Connected (header : List UInt8) (frames : List (List UInt8))
    (s : VideoState numFrames) : Prop where
  atRequest : s.vpc = .request
  stream : s.stream = header ++ encodeFrames frames
  pushed : s.pushed = []
  taken : s.taken = []

theorem recvAll_full {stream bs : List UInt8} {bytes ret : Int} {front rest : List UInt8}
    (h : recvAll stream bytes ret = some bs) (hpos : 0 < ret) (hfull : ret = front.length)
    (hstream : stream = front ++ rest) : bs = front ∧ stream.drop bs.length = rest := by
  rcases recvAll_eq_some h with ⟨hneg, -⟩ | ⟨-, -, hbs, -⟩
  · omega
  · have hfront : bs = front := by
      rw [hbs, hstream, hfull, Int.toNat_natCast, List.take_left]
    refine ⟨hfront, ?_⟩
    rw [hfront, hstream, List.drop_left]

/-! ### Which reads were taken -/

/-- The connection is open. -/
def VideoPc.connected : VideoPc numFrames → Bool
  | .serverWait | .cleanup _ | .ended => false
  | _ => true

theorem Step.connected {s t : VideoState numFrames} {a : Act} (hpc : s.vpc.connected = true)
    (hok : InStream s a) (h : Step s a t) : t.vpc.connected = true := by
  cases h.move with
  | video a _ hmove =>
      cases hmove with
      | earlyOut f hout => simp [InStream, hout] at hok
      | _ => grind [VideoPc.connected]
  | decode a _ hmove => exact hmove.frame.vpc ▸ hpc
  | stop => exact hpc
  | start conn hvpc hdpc => simp [hvpc, VideoPc.connected] at hpc
  | flip _ op _ => exact hpc

/-- **One read.**  A step keeps the reads whole exactly when its own, if it has one
    and it is taken for complete, is. -/
theorem Step.takenWhole_iff {s t : VideoState numFrames} {a : Act}
    (hpc : s.vpc.connected = true) (h : Step s a t) :
    t.TakenWhole ↔ s.TakenWhole ∧ FullReads s a := by
  -- most steps read nothing
  have hno : t.taken = s.taken → (∀ ret, a ≠ .video (.recv ret)) →
      (t.TakenWhole ↔ s.TakenWhole ∧ FullReads s a) := by
    intro htaken ha
    simp only [VideoState.TakenWhole, htaken, iff_self_and]
    intro _ ret heq
    exact absurd heq (ha ret)
  -- a read that failed is not taken
  have hfailed : ∀ ret, a = .video (.recv ret) → ret ≤ 0 → t.taken = s.taken →
      (t.TakenWhole ↔ s.TakenWhole ∧ FullReads s a) := by
    intro ret ha hret htaken
    simp only [VideoState.TakenWhole, htaken, iff_self_and]
    intro _ ret' heq
    obtain rfl : ret = ret' := by simpa [ha] using heq
    exact Or.inl hret
  -- a read that is taken is whole when it has brought what was asked for
  have htook : ∀ ret (bs : List UInt8) (stream : List UInt8) (bytes : Int),
      a = .video (.recv ret) → 0 < ret → recvAll stream bytes ret = some bs →
      t.taken = s.taken ++ [(s.requested, bs.length)] →
      (t.TakenWhole ↔ s.TakenWhole ∧ FullReads s a) := by
    intro ret bs stream bytes ha hret hrecv htaken
    have hlen : (bs.length : Int) = ret := by
      rcases recvAll_eq_some hrecv with ⟨hneg, -⟩ | ⟨-, -, -, hlen⟩ <;> omega
    have hread : FullReads s a ↔ ret = s.requested := by
      constructor
      · intro hfull
        exact (hfull ret ha).resolve_left (by omega)
      · intro heq ret' ha'
        obtain rfl : ret = ret' := by simpa [ha] using ha'
        exact Or.inr heq
    simp only [VideoState.TakenWhole, htaken, hread, List.mem_append, List.mem_singleton]
    constructor
    · intro hwhole
      exact ⟨fun read hmem => hwhole read (Or.inl hmem), hlen ▸ hwhole _ (Or.inr rfl)⟩
    · rintro ⟨hwhole, heq⟩ read (hmem | rfl)
      · exact hwhole read hmem
      · exact hlen.trans heq
  cases h.move with
  | video a _ hmove =>
      cases hmove with
      -- a new connection starts with no reads at all
      | accepted stream hwait => simp [hwait, VideoPc.connected] at hpc
      | header ret bs hhead hrecv =>
          by_cases hret : ret ≤ 0
          · exact hfailed ret rfl hret (by simp [hret])
          · apply htook ret bs _ _ rfl (by omega) hrecv
            simp [hret, VideoState.requested, hhead]
      | lengthFailed ret bs f hlength hrecv hret => exact hfailed ret rfl hret rfl
      | payloadFailed ret bs f hpayload hrecv hret => exact hfailed ret rfl hret rfl
      | crash ret bs hlength hrecv hret =>
          exact htook ret bs _ _ rfl hret hrecv (by simp [VideoState.requested, hlength])
      | length ret bs f hlength hrecv hret =>
          exact htook ret bs _ _ rfl hret hrecv (by simp [VideoState.requested, hlength])
      | payload ret bs f hpayload hrecv hret =>
          exact htook ret bs _ _ rfl hret hrecv (by simp [VideoState.requested, hpayload])
      | cleanup c todo hclean => simp [hclean, VideoPc.connected] at hpc
      | _ => exact hno rfl (by simp)
  | decode a _ hmove => exact hno hmove.frame.taken (by simp)
  | stop => exact hno rfl (by simp)
  | start conn hvpc hdpc => simp [hvpc, VideoPc.connected] at hpc
  | flip _ op ha => exact hno rfl (by rcases ha with rfl | rfl <;> simp)

/-- When all reads taken were whole, every step of the run read in full. -/
theorem fullReads_of_takenWhole {s t : VideoState numFrames} {as : List Act}
    (hpc : s.vpc.connected = true) (hrun : Run (Guarded InStream Step) s as t) :
    t.vpc.connected = true ∧
      (t.TakenWhole → Run (Guarded FullReads (Guarded InStream Step)) s as t) := by
  induction hrun with
  | nil => exact ⟨hpc, fun _ => Run.nil _⟩
  | snoc _ hstep ih =>
      refine ⟨Step.connected ih.1 hstep.1 hstep.2, fun hwhole => ?_⟩
      obtain ⟨hbefore, hfull⟩ := (Step.takenWhole_iff ih.1 hstep.2).mp hwhole
      exact Run.snoc (ih.2 hbefore) ⟨hfull, hstep⟩

/-! ### Descriptors of a connection

They are `Clean` when none was left over as `decoder_prepare_video` began to add them
(`QueuesDrained`); before that nothing is asked of them.
-/

/-- While the descriptors are added the decode thread has nothing to do; from then on the
    session delivers. -/
def Clean (s : VideoState numFrames) : Prop :=
  match s.vpc with
  | .request | .header | .prepareHeader | .prepareTj | .prepareTjXform => True
  | .prepareInBuf | .prepareDecodeBuf | .prepareWebcamBuf | .prepareSwc => True
  | .prepareFrames todo => todo = List.finRange numFrames ∨
      (s.places ++ todo).Perm (List.finRange numFrames) ∧ s.Quiet
  | .earlyOut _ | .crash => True
  | .serverWait | .cleanup _ | .ended => False
  | _ => ∃ seen₀ received₀, Delivery seen₀ received₀ s

theorem Clean.delivery {s : VideoState numFrames} (hs : Clean s)
    (hpc : s.vpc.streaming = true) : ∃ seen₀ received₀, Delivery seen₀ received₀ s := by
  cases hvpc : s.vpc <;> simp_all [Clean, VideoPc.streaming]

theorem Clean.of_delivery {seen₀ received₀ : List (List UInt8)} {t : VideoState numFrames}
    (h : Delivery seen₀ received₀ t) : Clean t := by
  have hrunning := h.session.running
  cases hvpc : t.vpc <;> simp_all [VideoPc.inSession, VideoPc.streaming, Clean] <;>
    exact ⟨_, _, h⟩

/-- With full reads the steps within a stream are steps within a session. -/
theorem InStream.inSession {s : VideoState numFrames} {a : Act} (hok : InStream s a)
    (hwhole : s.TakenWhole) (hfull : FullReads s a) : InSession s a := by
  unfold InSession
  split
  · simp_all [InStream]
  · rename_i f ret hvpc
    intro hret
    simp only [InStream, hvpc] at hok
    refine ⟨?_, hok hwhole⟩
    simpa [VideoState.requested, hvpc] using (hfull ret rfl).resolve_left (by omega)
  · trivial

/-- One turn of the loop that adds the descriptors. -/
theorem Clean.prepareFrame {s t : VideoState numFrames} {a : Act} {i : Fin numFrames}
    {todo : List (Fin numFrames)} (hs : Clean s) (hpc : s.vpc = .prepareFrames (i :: todo))
    (hnone : List.finRange numFrames = i :: todo → s.places = [])
    (hadd : t.places.Perm (i :: s.places)) (h : Step s a t) (htpc : t.vpc = .prepareFrames todo) :
    Clean t := by
  have hcons : (t.places ++ todo).Perm (s.places ++ (i :: todo)) :=
    (hadd.append_right todo).trans List.perm_middle.symm
  have hquiet : s.Quiet → t.Quiet := fun hs => h.quiet hs (by simp [hpc])
  simp only [Clean, hpc] at hs
  simp only [Clean, htpc]
  right
  rcases hs with hfirst | ⟨hrest, hidle⟩
  · have hplaces := hnone hfirst.symm
    rw [hplaces, hfirst, List.nil_append] at hcons
    simp only [VideoState.places, List.append_eq_nil_iff, Option.toList_eq_nil_iff] at hplaces
    exact ⟨hcons, hquiet ⟨hplaces.1.1.2, hplaces.2⟩⟩
  · exact ⟨hcons.trans hrest, hquiet hidle⟩

theorem Clean.step {s t : VideoState numFrames} {a : Act} (hpos : 0 < numFrames) (hs : Clean s)
    (hok : InSession s a) (hdrained : QueuesDrained s a) (h : Step s a t) : Clean t := by
  have hstreaming : s.vpc.streaming = true → Clean t := by
    intro hpc
    obtain ⟨seen₀, received₀, hdelivery⟩ := hs.delivery hpc
    exact Clean.of_delivery (hdelivery.step hok h)
  -- a step of the decode thread or of the window, wherever the video thread is
  have hstay : t.vpc = s.vpc → t.places.Perm s.places → Clean t := by
    intro hvpc hkept
    by_cases hpc : s.vpc.streaming = true
    · exact hstreaming hpc
    · have hquiet' : s.Quiet → t.Quiet := fun hq => h.quiet hq (by
        rintro f hf
        simp [hf, VideoPc.streaming] at hpc)
      cases hpc' : s.vpc with
      | prepareFrames todo =>
          simp only [Clean, hpc'] at hs
          simp only [Clean, hvpc, hpc']
          exact hs.imp_right fun hrest =>
            ⟨(hkept.append_right todo).trans hrest.1, hquiet' hrest.2⟩
      | _ => simp_all [Clean, VideoPc.streaming]
  cases h.move with
  | video a _ hmove =>
      cases hmove with
      | request ok hpc => cases ok <;> trivial
      | header ret bs hpc hrecv => by_cases hret : ret ≤ 0 <;> simp [Clean, hret]
      | prepareHeader w h pc hpc hw hh hnext => rcases hnext with rfl | rfl <;> trivial
      | prepareTj ok hpc => cases ok <;> trivial
      | prepareTjXform ok hpc => cases ok <;> trivial
      | prepareInBuf ok hpc => trivial
      | prepareDecodeBuf ok pc hpc hnext =>
          rcases hnext with rfl | rfl
          · trivial
          · exact Or.inl rfl
      | prepareWebcamBuf ok hpc => trivial
      | prepareSwc ok hpc => exact Or.inl rfl
      | prepared hpc =>
          simp only [Clean, hpc, List.append_nil] at hs
          -- the loop has had something to add
          have hne : [] ≠ List.finRange numFrames := by
            intro hnil
            have hlength := congrArg List.length hnil
            simp only [List.length_nil, List.length_finRange] at hlength
            omega
          obtain ⟨hplaces, hdecode, hidle⟩ := hs.resolve_left hne
          have hprepared : Prepared { s with vpc := .loop } := by
            refine ⟨rfl, ?_, hdecode, hidle⟩
            simpa [VideoState.places, hdecode, hidle, hpc, VideoPc.held] using hplaces
          exact Clean.of_delivery (hprepared.delivery hpos)
      | prepareFrame i todo hpc =>
          exact hs.prepareFrame hpc (fun hfirst => hdrained (hfirst ▸ hpc) rfl)
            (places_prepareFrame hpc rfl rfl rfl rfl) h rfl
      | earlyOut f hpc => simp [InSession, hpc] at hok
      | resume hpc | refused hpc | accepted hpc | cleanup hpc | finish hpc =>
          simp_all [Clean]
      | _ => exact hstreaming (by simp_all [VideoPc.streaming])
  | decode a _ hmove => exact hstay hmove.frame.vpc hmove.places
  | stop => exact hstay rfl (List.Perm.refl _)
  | start conn hvpc hdpc => simp [Clean, hvpc] at hs
  | flip _ op ha => exact hstay rfl (List.Perm.refl _)

/-! ### Where the stream is

The point of the program says how the rest of the stream is cut: before a length there
are whole frames to come, before a payload the frame of that length. -/

/-- What has been pushed and what is still to come are the frames of the stream. -/
def Framed (header : List UInt8) (frames : List (List UInt8)) (s : VideoState numFrames) : Prop :=
  match s.vpc with
  | .request | .header => s.stream = header ++ encodeFrames frames ∧ s.pushed = []
  | .prepareHeader | .prepareTj | .prepareTjXform | .prepareInBuf | .prepareDecodeBuf
  | .prepareWebcamBuf | .prepareSwc | .prepareFrames _ =>
      s.stream = encodeFrames frames ∧ s.pushed = []
  | .loop | .command | .pull | .length _ | .pushLimit _ | .pushReceive _ | .pushDecode _ =>
      ∃ rest, frames = s.pushed ++ rest ∧ s.stream = encodeFrames rest
  | .payload f => ∃ p rest, frames = s.pushed ++ p :: rest ∧ s.stream = p ++ encodeFrames rest ∧
      (s.frames f).length = p.length
  | .push f => ∃ p rest, frames = s.pushed ++ p :: rest ∧ s.stream = encodeFrames rest ∧
      s.payload f = p
  | .earlyOut _ | .crash => s.pushed <+: frames
  | .serverWait | .cleanup _ | .ended => False

theorem Framed.pushed_prefix {header : List UInt8} {frames : List (List UInt8)}
    {s : VideoState numFrames} (hs : Framed header frames s) : s.pushed <+: frames := by
  cases hpc : s.vpc <;> simp only [Framed, hpc] at hs
  case request | header | prepareHeader | prepareTj | prepareTjXform => simp [hs.2]
  case prepareInBuf | prepareDecodeBuf | prepareWebcamBuf | prepareSwc => simp [hs.2]
  case prepareFrames => simp [hs.2]
  case loop | command | pull | length | pushLimit | pushReceive | pushDecode =>
    obtain ⟨rest, rfl, -⟩ := hs
    exact List.prefix_append _ _
  case payload | push =>
    obtain ⟨p, rest, rfl, -⟩ := hs
    exact List.prefix_append _ _
  case earlyOut | crash => exact hs

theorem Framed.videoMove {header : List UInt8} {frames : List (List UInt8)}
    {s t : VideoState numFrames} {a : VideoAct} (hheader : header.length = 9)
    (hlen : ∀ p ∈ frames, p.length < 4294967296) (hs : Framed header frames s)
    (hok : InStream s (.video a)) (hfull : FullReads s (.video a)) (h : VideoMove s a t) :
    Framed header frames t := by
  have hprefix := hs.pushed_prefix
  cases h with
  | request ok hpc | prepareTj ok hpc | prepareTjXform ok hpc =>
      simp only [Framed, hpc] at hs
      cases ok with
      -- the thread gives up, and what it has pushed is a front of the frames
      | false => exact hprefix
      | true => exact hs
  | header ret bs hpc hrecv =>
      simp only [Framed, hpc] at hs
      by_cases hret : ret ≤ 0
      · simpa [Framed, hret] using hprefix
      · have hnine : ret = header.length := by
          have := (hfull ret rfl).resolve_left hret
          simp only [VideoState.requested, hpc] at this
          omega
        obtain ⟨-, hdrop⟩ := recvAll_full hrecv (by omega) hnine hs.1
        simp only [Framed, if_neg hret]
        exact ⟨hdrop, hs.2⟩
  | prepareHeader w h pc hpc hw hh hnext =>
      simp only [Framed, hpc] at hs
      rcases hnext with rfl | rfl
      · exact hprefix
      · exact hs
  | prepareDecodeBuf ok pc hpc hnext =>
      rcases hnext with rfl | rfl <;> simpa only [Framed, hpc, VideoState.allocate] using hs
  | prepareInBuf _ hpc | prepareWebcamBuf _ hpc | prepareSwc _ hpc | prepareFrame _ _ hpc
  | command hpc | control _ _ hpc | pull _ _ hpc | pushReceive _ hpc | pushDecode _ hpc =>
      -- on the way from one `recv` to the next nothing is taken from the stream
      simpa only [Framed, hpc, VideoState.allocate] using hs
  | prepared hpc =>
      simp only [Framed, hpc] at hs
      exact ⟨frames, by simp [hs.2], hs.1⟩
  | loop hpc =>
      simp only [Framed, hpc] at hs
      cases hrunning : s.vRunning with
      | false => simpa [Framed] using hprefix
      | true => simpa [Framed] using hs
  | lengthFailed | crash | payloadFailed => exact hprefix
  | length ret bs f hpc hrecv hret =>
      simp only [Framed, hpc] at hs
      obtain ⟨rest, hframes, hstream⟩ := hs
      -- four bytes were asked for and came, so the length is that of the next frame
      have hfour : ret = 4 := by
        simpa [VideoState.requested, hpc] using (hfull ret rfl).resolve_left (by omega)
      cases rest with
      | nil =>
          exfalso
          rcases recvAll_eq_some hrecv with ⟨hneg, -⟩ | ⟨-, -, hbs, hlen'⟩
          · omega
          · rw [hbs, hstream] at hlen'
            simp [encodeFrames] at hlen'
            omega
      | cons p rest =>
          rw [encodeFrames_cons] at hstream
          have hfull' : ret = (le32Bytes p.length).length := by rw [hfour]; rfl
          obtain ⟨hbs, hdrop⟩ := recvAll_full hrecv hret hfull' hstream
          have hp : p ∈ frames := by simp [hframes]
          refine ⟨p, rest, hframes, hdrop, ?_⟩
          rw [hbs]
          simpa using le32_overwrite s.buf (hlen p hp)
  | payload ret bs f hpc hrecv hret =>
      simp only [Framed, hpc] at hs
      obtain ⟨p, rest, hframes, hstream, hp⟩ := hs
      have hall : ret = p.length := by
        rw [← hp]
        simpa [VideoState.requested, hpc] using (hfull ret rfl).resolve_left (by omega)
      obtain ⟨rfl, hdrop⟩ := recvAll_full hrecv hret hall hstream
      refine ⟨bs, rest, hframes, hdrop, ?_⟩
      rw [VideoState.payload, hp]
      exact read_write_self _ _ _
  | push f hpc =>
      simp only [Framed, hpc] at hs
      obtain ⟨p, rest, hframes, hstream, rfl⟩ := hs
      have hgoes : frames = (s.pushed ++ [s.payload f]) ++ rest := by simp [hframes]
      by_cases hempty : s.receiveQueue.length = 0 <;>
      · simp only [hempty, if_true, if_false]
        exact ⟨rest, hgoes, hstream⟩
  | pushLimit f hpc =>
      simp only [Framed, hpc] at hs
      by_cases hfull : s.decodeQueue.length > s.decoder.mBufferLimit <;>
        simpa only [Framed, hfull, if_true, if_false] using hs
  | earlyOut f hpc => simp [InStream, hpc] at hok
  | resume hpc | refused hpc | accepted hpc | cleanup hpc | finish hpc => simp_all [Framed]

/-- While `f` is about to be pushed, its payload is under way. -/
theorem Framed.decodeMove {header : List UInt8} {frames : List (List UInt8)}
    {s t : VideoState numFrames} {a : DecodeAct} (hclean : Clean s)
    (hs : Framed header frames s) (h : DecodeMove s a t) : Framed header frames t := by
  obtain ⟨hvpc, -, -, -, hframes, -, -, -, -, hstream, -, -, hpushed, -⟩ := h.frame
  cases hpc : s.vpc with
  | push f =>
      obtain ⟨seen₀, received₀, hdelivery⟩ := hclean.delivery (by simp [hpc, VideoPc.streaming])
      have hpayload := hdelivery.decode_payload h f
        (mem_pending.mpr (Or.inr (Or.inr (by simp [hpc, VideoPc.handingOver]))))
      simp only [Framed, hpc] at hs
      simp only [Framed, hvpc, hpc, hstream, hpushed, hpayload]
      exact hs
  | _ => simp_all [Framed]

/-- The state of a connection whose reads have all been whole. -/
structure Faithful (header : List UInt8) (frames : List (List UInt8))
    (s : VideoState numFrames) : Prop where
  clean : Clean s
  framed : Framed header frames s
  whole : s.TakenWhole

theorem Framed.connected {header : List UInt8} {frames : List (List UInt8)}
    {s : VideoState numFrames} (hs : Framed header frames s) : s.vpc.connected = true := by
  cases hpc : s.vpc <;> simp_all [Framed, VideoPc.connected]

theorem Faithful.step {header : List UInt8} {frames : List (List UInt8)}
    {s t : VideoState numFrames} {a : Act} (hpos : 0 < numFrames) (hheader : header.length = 9)
    (hlen : ∀ p ∈ frames, p.length < 4294967296) (hs : Faithful header frames s)
    (hok : InStream s a) (hfull : FullReads s a) (hdrained : QueuesDrained s a) (h : Step s a t) :
    Faithful header frames t := by
  refine ⟨hs.clean.step hpos (hok.inSession hs.whole hfull) hdrained h, ?_,
    (Step.takenWhole_iff hs.framed.connected h).mpr ⟨hs.whole, hfull⟩⟩
  cases h.move with
  | video a _ hmove => exact hs.framed.videoMove hheader hlen hok hfull hmove
  | decode a _ hmove => exact hs.framed.decodeMove hs.clean hmove
  | stop => exact hs.framed
  | start conn hvpc hdpc =>
      have hframed := hs.framed
      simp [Framed, hvpc] at hframed
  | flip _ op ha => exact hs.framed

theorem Connected.faithful {header : List UInt8} {frames : List (List UInt8)}
    {s : VideoState numFrames} (hs : Connected header frames s) : Faithful header frames s where
  clean := by simp only [Clean, hs.atRequest]
  framed := by simpa only [Framed, hs.atRequest] using ⟨hs.stream, hs.pushed⟩
  whole := by simp [VideoState.TakenWhole, hs.taken]

/-- Every `recv` that delivers something delivers all that was asked for, and
    `decoder_prepare_video` finds no descriptor left over when it begins to add them. -/
def ReadsWhole (s : VideoState numFrames) (a : Act) : Prop := FullReads s a ∧ QueuesDrained s a

/-- `ReadsWhole`, computed. -/
def readsWhole (s : VideoState numFrames) (a : Act) : Bool :=
  (match a with
    | .video (.recv ret) => decide (ret ≤ 0 ∨ ret = s.requested)
    | _ => true) &&
  decide (QueuesDrained s a)

theorem readsWhole_iff {s : VideoState numFrames} {a : Act} :
    readsWhole s a = true ↔ ReadsWhole s a := by
  simp only [readsWhole, ReadsWhole, Bool.and_eq_true, decide_eq_true_eq]
  refine and_congr_left fun _ => ?_
  unfold FullReads
  split
  · simp
  · rename_i hrecv
    exact iff_of_true rfl fun ret heq => absurd heq (hrecv ret)

instance (s : VideoState numFrames) (a : Act) : Decidable (ReadsWhole s a) :=
  decidable_of_iff _ readsWhole_iff

/-- **What is pushed follows the stream while every read is whole and no descriptor was
    left over.**  Conversely, a run that takes no short read for a complete one has none: a
    positive result short of what was asked for is always taken for complete. -/
theorem frames_pushed_whole (hpos : 0 < numFrames) {header : List UInt8}
    {frames : List (List UInt8)} {s : VideoState numFrames}
    (hheader : header.length = 9) (hlen : ∀ p ∈ frames, p.length < 4294967296)
    (hs : Connected header frames s) :
    (∀ as t, Run (Guarded ReadsWhole (Guarded InStream Step)) s as t →
      t.pushed <+: frames ∧ t.TakenWhole) ∧
      ∀ as t, Run (Guarded InStream Step) s as t → t.TakenWhole →
        Run (Guarded FullReads (Guarded InStream Step)) s as t := by
  refine ⟨fun as t hrun => ?_, fun as t hrun hwhole => ?_⟩
  · have ht : Faithful header frames t := hrun.invariant
      (fun _ _ _ hs hstep =>
        hs.step hpos hheader hlen hstep.2.1 hstep.1.1 hstep.1.2 hstep.2.2) hs.faithful
    exact ⟨ht.framed.pushed_prefix, ht.whole⟩
  · exact (fullReads_of_takenWhole (by simp [hs.atRequest, VideoPc.connected]) hrun).2 hwhole

def header4x4 : List UInt8 := [0, 4, 0, 4, 0, 0, 0, 0, 0]

/-- The request of `startSession` answered with a frame of 20 bytes, of which the
    `recv` of the payload delivers `n`. -/
def readFrame (n : Int) : List Act :=
  (startSession []).drop 2 ++ receiveLength ++ [.video (.recv n), .video .go]

theorem connected4x4 {s : VideoState JPG_BACKBUF_MAX}
    (h : execute next pipelineInit [.start (some (streamOf4x4 20)), .video .go] = some s) :
    Connected header4x4 [List.replicate 20 255] s := by
  cases h
  exact ⟨rfl, by decide, rfl, rfl⟩

theorem frames_pushed_whole_frame :
    ∃ s t : VideoState JPG_BACKBUF_MAX, Connected header4x4 [List.replicate 20 255] s ∧
      Run (Guarded ReadsWhole (Guarded InStream Step)) s (readFrame 20) t ∧
      t.pushed = [List.replicate 20 255] ∧ t.TakenWhole := by
  obtain ⟨s, hs, hrest⟩ := Option.bind_eq_some_iff.mp (by decide +kernel :
    ((execute next pipelineInit [.start (some (streamOf4x4 20)), .video .go]).bind fun s =>
      (execute (guard ReadsWhole (guard InStream next)) s (readFrame 20)).map fun t => t.pushed) =
        some [List.replicate 20 255])
  obtain ⟨t, ht, hpushed⟩ := Option.map_eq_some_iff.mp hrest
  have hconnected := connected4x4 hs
  have hrun : Run (Guarded ReadsWhole (Guarded InStream Step)) s (readFrame 20) t :=
    (Run.of_execute_guard ht).mono fun _ _ _ hstep => ⟨hstep.1, guard_step hstep.2⟩
  exact ⟨s, t, hconnected, hrun, hpushed,
    ((frames_pushed_whole (by decide) (by decide) (by decide) hconnected).1 _ t hrun).2⟩

/-- A payload of 20 bytes cut short by the receive timeout after 10. -/
theorem frames_pushed_cut_short :
    ¬ ∀ (header : List UInt8) (frames : List (List UInt8)) (s t : VideoState JPG_BACKBUF_MAX)
        (as : List Act), header.length = 9 → (∀ p ∈ frames, p.length < 4294967296) →
      Connected header frames s → Run (Guarded InStream Step) s as t →
        t.pushed <+: frames ∧ t.TakenWhole := by
  intro h
  obtain ⟨s, hs, hrest⟩ := Option.bind_eq_some_iff.mp (by decide +kernel :
    ((execute next pipelineInit [.start (some (streamOf4x4 20)), .video .go]).bind fun s =>
      (execute (guard InStream next) s (readFrame 10)).map fun t => t.pushed) =
        some [List.replicate 10 255 ++ List.replicate 10 0])
  obtain ⟨t, ht, hpushed⟩ := Option.map_eq_some_iff.mp hrest
  have hprefix := (h _ _ s t _ (by decide) (by decide) (connected4x4 hs)
    (Run.of_execute_guard ht)).1
  rw [hpushed] at hprefix
  exact absurd hprefix (by decide)

end DroidCam.VideoThreads
