import DroidCam.VideoOwnership

/-
  DroidCam/VideoDelivery.lean
  ===========================
  What the decode thread sees of what the video thread received, within one
  session.

  A payload lies in `m_inBuf` from its `recv` until the decode thread reads it.  It
  survives because each descriptor is in one place only (`Session`) and every
  access to the buffer through another descriptor falls into another slot.
-/

namespace DroidCam.VideoThreads

open ByteMemory LabelledRun
open DroidCam.JpgDecoder DroidCam.Queue

variable {numFrames : Nat}

/-! ### Frames under way

Between its receipt and its look at it a payload is on the way: handed over by the video
thread, in decode_queue, or taken and not looked at yet. What was seen, then these in
order, is a subsequence of what was received. -/

/-- The frame whose payload has been received and may still go to `decode_queue`. -/
def VideoPc.handingOver : VideoPc numFrames → Option (Fin numFrames)
  | .push f | .pushLimit f | .pushDecode f => some f
  | _ => none

/-- The frame `process_frame` has been called on and not looked into yet. -/
def DecodePc.unseen : DecodePc numFrames → Option (Fin numFrames)
  | .process f .header => some f
  | _ => none

/-- The frames on their way to the decoder, the next one first. -/
def VideoState.pending (s : VideoState numFrames) : List (Fin numFrames) :=
  s.dpc.unseen.toList ++ s.decodeQueue ++ s.vpc.handingOver.toList

/-- The payload of `f` lies in the slot of `f`. -/
def VideoState.Fits (s : VideoState numFrames) (f : Fin numFrames) : Prop :=
  SpanInSlot numFrames s.decoder.mYuv420Size f (s.frames f).data (s.frames f).length

/-- What was seen since `seen₀`, and then what is under way, was received since
    `received₀` in this order. -/
structure Delivery (seen₀ received₀ : List (List UInt8)) (s : VideoState numFrames) : Prop where
  session : Session s
  ledger : ∃ seen received, s.seen = seen₀ ++ seen ∧ s.received = received₀ ++ received ∧
    (seen ++ s.pending.map s.payload).Sublist received
  fits : ∀ f ∈ s.pending, s.Fits f
  processed : ∀ f point, s.dpc = .process f point →
    s.Fits f ∧ (point ≠ .header → s.dframe = s.frames f)

theorem VideoPc.held_of_handingOver {pc : VideoPc numFrames} {f : Fin numFrames}
    (h : pc.handingOver = some f) : pc.held = some f := by
  cases pc <;> first | exact h | cases h

theorem DecodePc.held_of_unseen {pc : DecodePc numFrames} {f : Fin numFrames}
    (h : pc.unseen = some f) : pc.held = some f := by
  cases pc with
  | process g point => cases point <;> first | exact h | cases h
  | _ => cases h

theorem mem_pending {s : VideoState numFrames} {f : Fin numFrames} :
    f ∈ s.pending ↔ s.dpc.unseen = some f ∨ f ∈ s.decodeQueue ∨ s.vpc.handingOver = some f := by
  simp [VideoState.pending]

theorem not_mem_decodeQueue {s : VideoState numFrames} (h : s.places.Nodup) {f : Fin numFrames}
    (hf : s.vpc.held = some f ∨ s.dpc.held = some f) : f ∉ s.decodeQueue := by
  intro hmem
  have hcount := List.nodup_iff_count_le_one.mp h f
  have hqueued := List.count_pos_iff.mpr hmem
  rw [count_places] at hcount
  rcases hf with hf | hf <;>
  · simp only [hf, Option.toList, List.count_singleton_self] at hcount
    omega

/-- A frame the video thread holds and has not received yet is not under way. -/
theorem not_pending_of_video {s : VideoState numFrames} (h : s.places.Nodup) {f : Fin numFrames}
    (hheld : s.vpc.held = some f) (hover : s.vpc.handingOver = none) : f ∉ s.pending := by
  intro hmem
  rcases mem_pending.mp hmem with hunseen | hqueued | hhand
  · exact held_ne_of_nodup h hheld (DecodePc.held_of_unseen hunseen)
  · exact not_mem_decodeQueue h (Or.inl hheld) hqueued
  · simp [hover] at hhand

/-- Nor is a frame that has been looked into. -/
theorem not_pending_of_process {s : VideoState numFrames} (h : s.places.Nodup)
    {f : Fin numFrames} (hheld : s.dpc.held = some f) (hseen : s.dpc.unseen = none) :
    f ∉ s.pending := by
  intro hmem
  rcases mem_pending.mp hmem with hunseen | hqueued | hhand
  · simp [hseen] at hunseen
  · exact not_mem_decodeQueue h (Or.inr hheld) hqueued
  · exact held_ne_of_nodup h (VideoPc.held_of_handingOver hhand) hheld

/-! ### Slots keep payloads apart -/

/-- An access within the slot of one descriptor leaves the payload of another alone. -/
theorem read_write_other_slot {yuv : Int} {f g : Fin numFrames} (hne : g ≠ f) {m : Memory UInt8}
    {off off' : Int} {n : Nat} {bs : List UInt8} (hg : SpanInSlot numFrames yuv g off n)
    (hf : SpanInSlot numFrames yuv f off' bs.length) :
    read (write m off' bs) off n = read m off n := by
  refine read_congr fun x hlo hhi => write_outside ?_
  by_contra hin
  have hslot := hg x hlo hhi
  have hslot' := hf x (by omega) (by omega)
  exact hne (Fin.ext (slot_disjoint g.isLt f.isLt hslot hslot'))

/-! ### Steps

A step carries the payloads on, adds one that was received, or has the decode thread
look at the first. The accesses of the two threads stay in different slots. -/

section Steps

variable {seen₀ received₀ : List (List UInt8)}

/-- What is under way stays, when the step leaves those payloads alone. -/
theorem Delivery.carry {s t : VideoState numFrames} (hs : Delivery seen₀ received₀ s) (hsession : Session t)
    (hpending : t.pending.Sublist s.pending)
    (hsame : ∀ f ∈ s.pending, t.payload f = s.payload f ∧ (s.Fits f → t.Fits f))
    (hseen : t.seen = s.seen) (hreceived : t.received = s.received)
    (hprocessed : ∀ f point, t.dpc = .process f point →
      t.Fits f ∧ (point ≠ .header → t.dframe = t.frames f)) : Delivery seen₀ received₀ t := by
  refine ⟨hsession, ?_, ?_, hprocessed⟩
  · have hmap : t.pending.map t.payload = t.pending.map s.payload :=
      List.map_congr_left fun f hf => (hsame f (hpending.subset hf)).1
    obtain ⟨seen, received, hs', hr', hsub⟩ := hs.ledger
    refine ⟨seen, received, hseen.trans hs', hreceived.trans hr', ?_⟩
    rw [hmap]
    exact ((hpending.map s.payload).append_left seen).trans hsub
  · intro f hf
    have hf' := hpending.subset hf
    exact (hsame f hf').2 (hs.fits f hf')

/-- A payload received joins what is under way, when it leaves the others alone. -/
theorem Delivery.receive {s t : VideoState numFrames} (hs : Delivery seen₀ received₀ s) (hsession : Session t)
    {f : Fin numFrames} (hpending : t.pending = s.pending ++ [f])
    (hsame : ∀ g ∈ s.pending, t.payload g = s.payload g) (hframes : t.frames = s.frames)
    (hyuv : t.decoder.mYuv420Size = s.decoder.mYuv420Size) (hfits : s.Fits f)
    (hseen : t.seen = s.seen) (hreceived : t.received = s.received ++ [t.payload f])
    (hdpc : t.dpc = s.dpc) (hdframe : t.dframe = s.dframe) : Delivery seen₀ received₀ t := by
  have hfits' : ∀ g, t.Fits g ↔ s.Fits g := by
    intro g
    simp only [VideoState.Fits, hframes, hyuv]
  refine ⟨hsession, ?_, ?_, ?_⟩
  · have hmap : t.pending.map t.payload = s.pending.map s.payload ++ [t.payload f] := by
      rw [hpending, List.map_append, List.map_congr_left hsame]
      rfl
    obtain ⟨seen, received, hs', hr', hsub⟩ := hs.ledger
    refine ⟨seen, received ++ [t.payload f], hseen.trans hs', ?_, ?_⟩
    · rw [hreceived, hr', List.append_assoc]
    · rw [hmap, ← List.append_assoc]
      exact hsub.append (List.Sublist.refl _)
  · intro g hg
    rw [hpending] at hg
    rcases List.mem_append.mp hg with hg | hg
    · exact (hfits' g).mpr (hs.fits g hg)
    · obtain rfl : g = f := List.mem_singleton.mp hg
      exact (hfits' g).mpr hfits
  · intro g point hpc
    rw [hfits', hdframe, hframes]
    exact hs.processed g point (hdpc ▸ hpc)

/-- A step of the video thread that touches no payload. -/
theorem Delivery.keep {s t : VideoState numFrames} (hs : Delivery seen₀ received₀ s) (hsession : Session t)
    (hframes : t.frames = s.frames) (hinBuf : t.inBuf = s.inBuf)
    (hyuv : t.decoder.mYuv420Size = s.decoder.mYuv420Size)
    (hseen : t.seen = s.seen) (hreceived : t.received = s.received) (hdpc : t.dpc = s.dpc)
    (hdframe : t.dframe = s.dframe) (hpending : t.pending.Sublist s.pending) : Delivery seen₀ received₀ t := by
  have hfits : ∀ f, t.Fits f ↔ s.Fits f := by
    intro f
    simp only [VideoState.Fits, hframes, hyuv]
  refine hs.carry hsession hpending (fun f _ => ⟨?_, (hfits f).mpr⟩) hseen hreceived ?_
  · simp only [VideoState.payload, hframes, hinBuf]
  · intro f point hpc
    rw [hfits, hdframe, hframes]
    exact hs.processed f point (hdpc ▸ hpc)

/-- The decode thread looks at the next payload under way. -/
theorem Delivery.look {s t : VideoState numFrames} (hs : Delivery seen₀ received₀ s) (hsession : Session t)
    {f : Fin numFrames} (hpending : s.pending = f :: t.pending) (hframes : t.frames = s.frames)
    (hinBuf : t.inBuf = s.inBuf) (hyuv : t.decoder.mYuv420Size = s.decoder.mYuv420Size)
    (hseen : t.seen = s.seen ++ [s.payload f]) (hreceived : t.received = s.received)
    (hdframe : t.dframe = s.frames f) (hdpc : ∀ g point, t.dpc = .process g point → g = f) :
    Delivery seen₀ received₀ t := by
  have hpayload : t.payload = s.payload := by
    funext g
    simp only [VideoState.payload, hframes, hinBuf]
  have hfits : ∀ g, t.Fits g ↔ s.Fits g := by
    intro g
    simp only [VideoState.Fits, hframes, hyuv]
  refine ⟨hsession, ?_, ?_, ?_⟩
  · obtain ⟨seen, received, hs', hr', hsub⟩ := hs.ledger
    refine ⟨seen ++ [s.payload f], received, ?_, hreceived.trans hr', ?_⟩
    · rw [hseen, hs', List.append_assoc]
    -- the first payload on the way is now the last one seen
    · rw [hpending, List.map_cons] at hsub
      rw [hpayload]
      simpa using hsub
  · intro g hg
    exact (hfits g).mpr (hs.fits g (hpending ▸ List.mem_cons_of_mem f hg))
  · intro g point hpc
    obtain rfl := hdpc g point hpc
    rw [hfits, hdframe, hframes]
    exact ⟨hs.fits g (hpending ▸ List.mem_cons_self), fun _ => rfl⟩

theorem Delivery.videoMove {s t : VideoState numFrames} {a : VideoAct} (hs : Delivery seen₀ received₀ s)
    (hok : InSession s (.video a)) (h : VideoMove s a t) (hsession : Session t) : Delivery seen₀ received₀ t := by
  have hrunning := hs.session.running
  have hnodup : s.places.Nodup := hs.session.distinct.nodup_iff.mpr (List.nodup_finRange _)
  cases h with
  | loop hpc | command hpc | control _ _ hpc | pull _ _ hpc | lengthFailed _ _ _ hpc
  | push _ hpc | pushLimit _ hpc | pushReceive _ hpc | pushDecode _ hpc =>
      -- a payload that is handed over counts as pending before and behind each step of it
      apply hs.keep hsession rfl rfl rfl rfl rfl rfl rfl
      grind [VideoState.pending, VideoPc.handingOver, queueAdd]
  -- the video thread always has a descriptor in a session
  | crash ret bs hpc hrecv hret => exact absurd hpc hs.session.pulled
  | length ret bs f hpc hrecv hret =>
      -- the descriptor in the thread's hands is none of those on the way
      have hheld : s.vpc.held = some f := by simp [hpc, VideoPc.held]
      have hnot := not_pending_of_video hnodup hheld (by simp [hpc, VideoPc.handingOver])
      have hother : ∀ g, g ≠ f → Function.update s.frames f
          ⟨(s.frames f).data, le32 (overwrite s.buf bs)⟩ g = s.frames g :=
        fun g hg => Function.update_of_ne hg _ _
      refine hs.carry hsession (by simp [VideoState.pending, hpc, VideoPc.handingOver]) ?_ rfl rfl ?_
      · intro g hg
        have hne : g ≠ f := fun heq => hnot (heq ▸ hg)
        simp only [VideoState.payload, VideoState.Fits, hother g hne, true_and]
        exact id
      · intro g point hg
        have hne : g ≠ f := by
          rintro rfl
          exact held_ne_of_nodup hnodup hheld (by simp [show s.dpc = _ from hg, DecodePc.held])
        simp only [VideoState.Fits, hother g hne]
        exact hs.processed g point hg
  | payloadFailed ret bs f hpc hrecv hret =>
      -- nothing was written
      obtain ⟨-, rfl⟩ | ⟨hpos, -⟩ := recvAll_eq_some hrecv
      · exact hs.keep hsession rfl (write_nil _ _) rfl rfl rfl rfl rfl
          (by simp [VideoState.pending, hpc, VideoPc.handingOver])
      · omega
  | payload ret bs f hpc hrecv hret =>
      have hheld : s.vpc.held = some f := by simp [hpc, VideoPc.held]
      have hnot := not_pending_of_video hnodup hheld (by simp [hpc, VideoPc.handingOver])
      simp only [InSession, hpc] at hok
      obtain ⟨hcomplete, hfits⟩ := hok hret
      have hlen : bs.length = (s.frames f).length := by
        rcases recvAll_eq_some hrecv with ⟨hneg, -⟩ | ⟨-, -, -, hlen⟩ <;> omega
      have hwritten : SpanInSlot numFrames s.decoder.mYuv420Size f (s.frames f).data bs.length := by
        rwa [hlen]
      have hself : read (write s.inBuf (s.frames f).data bs) (s.frames f).data
          (s.frames f).length = bs := by
        rw [← hlen]
        exact read_write_self _ _ _
      -- the payload is written into the slot of its own descriptor, apart from those on
      -- the way
      refine hs.receive hsession (f := f) ?_ ?_ rfl rfl hfits rfl ?_ rfl rfl
      · simp [VideoState.pending, hpc, VideoPc.handingOver]
      · intro g hg
        have hne : g ≠ f := by
          rintro rfl
          exact hnot hg
        exact read_write_other_slot hne (hs.fits g hg) hwritten
      · simp only [VideoState.payload, hself]
  | earlyOut f hpc => simp [hpc, InSession] at hok
  | _ => simp_all [VideoPc.inSession, VideoPc.streaming]

/-- The decode thread changes no payload under way: the transform overwrites its own
    frame at most. -/
theorem Delivery.decode_payload {s t : VideoState numFrames} {a : DecodeAct}
    (hs : Delivery seen₀ received₀ s) (h : DecodeMove s a t) :
    ∀ f ∈ s.pending, t.payload f = s.payload f := by
  have hnodup : s.places.Nodup := hs.session.distinct.nodup_iff.mpr (List.nodup_finRange _)
  cases h with
  | transform ok out f hpc hop hout =>
      obtain ⟨hfits, hlocal⟩ := hs.processed f _ hpc
      have hdframe : s.dframe = s.frames f := hlocal (by simp)
      have hnot : f ∉ s.pending :=
        not_pending_of_process hnodup (by simp [hpc, DecodePc.held])
          (by simp [hpc, DecodePc.unseen])
      have hwritten : SpanInSlot numFrames s.decoder.mYuv420Size f s.dframe.data out.length := by
        rw [hdframe] at hout ⊢
        exact SpanInSlot.of_le hfits (by exact_mod_cast hout)
      intro g hg
      have hne : g ≠ f := by
        rintro rfl
        exact hnot hg
      exact read_write_other_slot hne (hs.fits g hg) hwritten
  | _ => exact fun f _ => rfl

theorem Delivery.decodeMove {s t : VideoState numFrames} {a : DecodeAct} (hs : Delivery seen₀ received₀ s)
    (h : DecodeMove s a t) (hsession : Session t) : Delivery seen₀ received₀ t := by
  have hpayload := hs.decode_payload h
  cases h with
  | loop hpc =>
      refine hs.carry hsession ?_ (fun g _ => ⟨rfl, id⟩) rfl rfl ?_ <;>
        cases s.vRunning <;> simp [VideoState.pending, hpc, DecodePc.unseen]
  | pullNone hpc hlimit =>
      refine hs.carry hsession ?_ (fun g _ => ⟨rfl, id⟩) rfl rfl ?_ <;>
        simp [VideoState.pending, hpc, DecodePc.unseen]
  | pull f rest hpc hqueue hlimit =>
      have hmem : f ∈ s.pending := mem_pending.mpr (Or.inr (Or.inl (by simp [hqueue])))
      refine hs.carry hsession ?_ (fun g _ => ⟨rfl, id⟩) rfl rfl ?_
      · simp [VideoState.pending, hpc, hqueue, DecodePc.unseen]
      · intro g point hg
        obtain ⟨rfl, rfl⟩ : f = g ∧ ProcessPoint.header = point := by simpa using hg
        -- the frame fits still, and nothing is copied before the header
        exact ⟨hs.fits f hmem, fun hne => absurd rfl hne⟩
  | headerKnown f hpc hsubsamp =>
      refine hs.look hsession (f := f) ?_ rfl rfl rfl rfl rfl rfl ?_
      · simp [VideoState.pending, hpc, DecodePc.unseen]
      · rintro g point hg
        simp_all
  | headerBad header f hpc hsubsamp =>
      refine hs.look hsession (f := f) ?_ rfl rfl rfl rfl rfl rfl ?_
      · simp [VideoState.pending, hpc, DecodePc.unseen]
      · rintro g point hg
        simp_all
  | headerGood f hpc hsubsamp =>
      refine hs.look hsession (f := f) ?_ rfl rfl rfl rfl rfl rfl ?_
      · simp [VideoState.pending, hpc, DecodePc.unseen]
      · rintro g point hg
        simp_all
  | noTransform f hpc hop =>
      obtain ⟨hfits, hlocal⟩ := hs.processed f _ hpc
      refine hs.carry hsession ?_ (fun g _ => ⟨rfl, id⟩) rfl rfl ?_
      · simp [VideoState.pending, hpc, DecodePc.unseen]
      · intro g point hg
        obtain ⟨rfl, rfl⟩ : f = g ∧ ProcessPoint.decompress = point := by simpa using hg
        exact ⟨hfits, fun _ => hlocal (by simp)⟩
  | transform ok out f hpc hop hout =>
      obtain ⟨hfits, hlocal⟩ := hs.processed f _ hpc
      -- the bytes that tjTransform writes are those of the frame in hand
      have hdframe : s.dframe = s.frames f := hlocal (by simp)
      refine hs.carry hsession ?_ (fun g hg => ⟨hpayload g hg, id⟩) rfl rfl ?_
      · cases ok <;> simp [VideoState.pending, hpc, DecodePc.unseen]
      · intro g point hg
        cases ok with
        | false => simp at hg
        | true =>
            obtain ⟨rfl, rfl⟩ : f = g ∧ ProcessPoint.decompress = point := by simpa using hg
            exact ⟨hfits, fun _ => hdframe⟩
  | decompress ok f hpc =>
      obtain ⟨hfits, hlocal⟩ := hs.processed f _ hpc
      refine hs.carry hsession ?_ (fun g _ => ⟨rfl, id⟩) rfl rfl ?_
      · cases ok <;> simp [VideoState.pending, hpc, DecodePc.unseen]
      · intro g point hg
        cases ok with
        | false => simp at hg
        | true =>
            obtain ⟨rfl, rfl⟩ : f = g ∧ ProcessPoint.scale = point := by simpa using hg
            exact ⟨hfits, fun _ => hlocal (by simp)⟩
  | scale f hpc =>
      obtain ⟨hfits, hlocal⟩ := hs.processed f _ hpc
      refine hs.carry hsession ?_ (fun g _ => ⟨rfl, id⟩) rfl rfl ?_
      · simp [VideoState.pending, hpc, DecodePc.unseen]
      · intro g point hg
        obtain ⟨rfl, rfl⟩ : f = g ∧ ProcessPoint.write = point := by simpa using hg
        exact ⟨hfits, fun _ => hlocal (by simp)⟩
  | write f hpc =>
      refine hs.carry hsession ?_ (fun g _ => ⟨rfl, id⟩) rfl rfl ?_ <;>
        simp [VideoState.pending, hpc, DecodePc.unseen]
  | push f hpc =>
      refine hs.carry hsession ?_ (fun g _ => ⟨rfl, id⟩) rfl rfl ?_ <;>
        simp [VideoState.pending, hpc, DecodePc.unseen]

theorem Delivery.step {s t : VideoState numFrames} {a : Act} (hs : Delivery seen₀ received₀ s)
    (hok : InSession s a) (h : Step s a t) : Delivery seen₀ received₀ t := by
  have hsession := hs.session.step hok h
  cases h.move with
  | video a _ hmove => exact hs.videoMove hok hmove hsession
  | decode a _ hmove => exact hs.decodeMove hmove hsession
  | stop =>
      exact hs.keep hsession rfl rfl rfl rfl rfl rfl rfl (List.Sublist.refl _)
  | start conn hvpc hdpc =>
      have hrunning := hs.session.running
      simp [hvpc, VideoPc.inSession, VideoPc.streaming] at hrunning
  | flip _ op _ =>
      exact hs.keep hsession rfl rfl rfl rfl rfl rfl rfl (List.Sublist.refl _)

end Steps

theorem Prepared.delivery {s : VideoState numFrames} (hpos : 0 < numFrames) (h : Prepared s) :
    Delivery s.seen s.received s := by
  have hunseen : s.dpc.unseen = none := by
    cases hf : s.dpc.unseen with
    | none => rfl
    | some f =>
        have hheld := DecodePc.held_of_unseen hf
        simp [h.idle] at hheld
  have hpending : s.pending = [] := by
    simp [VideoState.pending, hunseen, h.decode, h.atLoop, VideoPc.handingOver]
  refine ⟨h.session hpos, ⟨[], [], ?_⟩, ?_, ?_⟩
  · simp [hpending]
  · simp [hpending]
  · intro f point hpc
    have hidle := h.idle
    simp [hpc, DecodePc.held] at hidle

/-! ### Whole sessions

What a session may promise, and when it does: exactly when nothing of an earlier session
was left over as `decoder_prepare_video` began to put the descriptors into `receive_queue`.
-/

/-- The state `t` of a session that began in `s`: every descriptor is in one place, the
    video thread gets one to receive into, `decode_queue` keeps its limit, and what
    `process_frame` saw is a subsequence of what was received, byte for byte. -/
structure Delivered (s t : VideoState numFrames) : Prop where
  places : ∀ i, t.places.count i = 1
  nonempty : t.vpc = .pull → t.receiveQueue ≠ []
  pulled : t.vpc ≠ .length none
  running : t.vpc ≠ .crash
  limit : t.decodeQueue.length ≤ t.decoder.mBufferLimit + 1
  ledger : ∃ seen received, t.seen = s.seen ++ seen ∧ t.received = s.received ++ received ∧
    seen.Sublist received

/-- **A session loses no descriptor and delivers frames in order**, for any number of
    descriptors and any queue limit. -/
theorem session_delivers (hpos : 0 < numFrames) {s t : VideoState numFrames} {as : List Act}
    (h : Prepared s) (hrun : Run (Guarded InSession Step) s as t) : Delivered s t := by
  have ht : Delivery s.seen s.received t :=
    hrun.invariant (fun _ _ _ hs hstep => hs.step hstep.1 hstep.2) (h.delivery hpos)
  refine ⟨count_places_of_perm ht.session.distinct, ?_, ht.session.pulled, ?_,
    ht.session.limit, ?_⟩
  · intro hpc
    exact ht.session.nonempty (by simp [hpc, VideoPc.countsOnEmpty])
  · intro hpc
    have hrunning := ht.session.running
    simp [hpc, VideoPc.inSession, VideoPc.streaming] at hrunning
  · obtain ⟨seen, received, hseen, hreceived, hsub⟩ := ht.ledger
    exact ⟨seen, received, hseen, hreceived, (List.sublist_append_left _ _).trans hsub⟩

/-- With nothing left over, `decoder_prepare_video` leaves all descriptors in
    `receive_queue`. -/
theorem prepared_of_drained {s t : VideoState numFrames} {as : List Act}
    (hpc : s.vpc = .prepareFrames (List.finRange numFrames)) (hnone : s.places = [])
    (hrun : Run (Guarded InReaddLoop Step) s as t) (ht : t.vpc = .loop) : Prepared t := by
  have hplaces := readded_places hpc hrun ht
  rw [hnone, List.append_nil] at hplaces
  have hquiet : s.Quiet := by
    simp only [VideoState.places, List.append_eq_nil_iff, Option.toList_eq_nil_iff] at hnone
    exact ⟨hnone.1.1.2, hnone.2⟩
  have hquiet' : t.Quiet := by
    refine hrun.invariant (fun u a v hu hstep => ?_) hquiet
    obtain ⟨todo, htodo⟩ := hstep.1
    exact hstep.2.quiet hu (by simp [htodo])
  obtain ⟨hdecode, hidle⟩ := hquiet'
  refine ⟨ht, ?_, hdecode, hidle⟩
  simpa [VideoState.places, hdecode, hidle, ht, VideoPc.held] using hplaces

/-- **A session delivers exactly when no descriptor was left over.**  Over the loop of
    `decoder_prepare_video` and then any run within the session: when a descriptor is in a
    queue or in a thread's hands as the loop starts, it is there twice when the session
    does. -/
theorem session_delivers_iff (hpos : 0 < numFrames) {s t : VideoState numFrames} {as : List Act}
    (hpc : s.vpc = .prepareFrames (List.finRange numFrames))
    (hrun : Run (Guarded InReaddLoop Step) s as t) (ht : t.vpc = .loop) :
    (∀ bs u, Run (Guarded InSession Step) t bs u → Delivered t u) ↔ s.places = [] := by
  constructor
  · intro hall
    have honce := (hall [] t (Run.nil t)).places
    refine List.eq_nil_iff_forall_not_mem.mpr fun f hf => ?_
    -- one `f` is what the loop has added, the other one was there before
    have hcount := honce f
    rw [(readded_places hpc hrun ht).count_eq, List.count_append,
      List.count_eq_one_of_mem (List.nodup_finRange _) (List.mem_finRange f)] at hcount
    have hleft := List.count_pos_iff.mpr hf
    omega
  · intro hnone bs u hsession
    exact session_delivers hpos (prepared_of_drained hpc hnone hrun ht) hsession

/-- `Start` up to the loop over the descriptors, and the loop. -/
def readdSession (stream : List UInt8) : List Act × List Act :=
  ((startSession stream).take 11, (startSession stream).drop 11)

/-- The first session, and then a frame of 20 bytes received and decoded. -/
theorem session_delivers_iff_one_frame :
    ∃ (s t u : VideoState JPG_BACKBUF_MAX) (as bs : List Act),
      Run (Guarded InReaddLoop Step) s as t ∧ Run (Guarded InSession Step) t bs u ∧
      u.seen = [List.replicate 20 255] ∧ Delivered t u := by
  obtain ⟨s, hs, hrest⟩ := Option.bind_eq_some_iff.mp (by decide +kernel :
    ((execute next pipelineInit (readdSession (streamOf4x4 20)).1).bind fun s =>
      (execute (guard InReaddLoop next) s (readdSession (streamOf4x4 20)).2).bind fun t =>
        (execute (guard InSession next) t (receiveAndDecode 20 ++ giveUpFrame.take 1)).map
          fun u => ((s.vpc, s.places), t.vpc, u.seen)) =
      some ((.prepareFrames (List.finRange JPG_BACKBUF_MAX), []), .loop,
        [List.replicate 20 255]))
  obtain ⟨t, ht, hrest⟩ := Option.bind_eq_some_iff.mp hrest
  obtain ⟨u, hu, hvalues⟩ := Option.map_eq_some_iff.mp hrest
  simp only [Prod.mk.injEq] at hvalues
  obtain ⟨⟨hpc, hnone⟩, hloop, hseen⟩ := hvalues
  have hreadd := Run.of_execute_guard ht
  have hrun := Run.of_execute_guard hu
  exact ⟨s, t, u, _, _, hreadd, hrun, hseen,
    (session_delivers_iff (by decide) hpc hreadd hloop).mpr hnone _ u hrun⟩

/-- A session that `Stop` ends while the decode thread is in `process_frame`. -/
def stoppedSession : List Act :=
  startSession (streamOf4x4 20) ++ receiveAndDecode 20 ++ [.stop] ++ leaveSession ++ giveUpFrame

/-- Two frames of 20 bytes that differ. -/
def twoFrames : List UInt8 := streamOf4x4 20 ++ [20, 0, 0, 0] ++ List.replicate 20 254

def receivePayload : List Act := receiveLength ++ [.video (.recv 20)]

def pushFrame : List Act := List.replicate 3 (.video .go)

def lookAtFrame : List Act := List.replicate 2 (.decode .go) ++ [.decode (.tjHeader none)]

/-- The first frame is pushed, the second one is received over it, and the decode thread
    sees the second one twice. -/
def receiveTwice : List Act :=
  receivePayload ++ pushFrame ++ receivePayload ++ lookAtFrame ++ [.decode .go] ++ pushFrame ++
    lookAtFrame

/-- The session after it gets the descriptor 0 twice. -/
theorem session_redelivers :
    ¬ ∀ (as bs cs : List Act) (s t u : VideoState JPG_BACKBUF_MAX), Run Step pipelineInit as s →
      s.vpc = .prepareFrames (List.finRange JPG_BACKBUF_MAX) →
      Run (Guarded InReaddLoop Step) s bs t → t.vpc = .loop →
        Run (Guarded InSession Step) t cs u → Delivered t u := by
  intro h
  obtain ⟨s, hs, hrest⟩ := Option.bind_eq_some_iff.mp (by decide +kernel :
    ((execute next pipelineInit (stoppedSession ++ (readdSession twoFrames).1)).bind fun s =>
      (execute (guard InReaddLoop next) s (readdSession twoFrames).2).bind fun t =>
        (execute (guard InSession next) t receiveTwice).map
          fun u => ((s.vpc, t.vpc), [t.seen, t.received, u.seen, u.received])) =
      some ((.prepareFrames (List.finRange JPG_BACKBUF_MAX), .loop), [[], [],
        [List.replicate 20 254, List.replicate 20 254],
        [List.replicate 20 255, List.replicate 20 254]]))
  obtain ⟨t, ht, hrest⟩ := Option.bind_eq_some_iff.mp hrest
  obtain ⟨u, hu, hvalues⟩ := Option.map_eq_some_iff.mp hrest
  simp only [Prod.mk.injEq, List.cons.injEq, and_true] at hvalues
  obtain ⟨⟨hpc, hloop⟩, hseen₀, hreceived₀, hseen, hreceived⟩ := hvalues
  obtain ⟨seen, received, hs', hr', hsub⟩ := (h _ _ _ s t u (Run.of_execute hs) hpc
    (Run.of_execute_guard ht) hloop (Run.of_execute_guard hu)).ledger
  rw [hseen₀, hseen, List.nil_append] at hs'
  rw [hreceived₀, hreceived, List.nil_append] at hr'
  rw [← hs', ← hr'] at hsub
  exact absurd hsub (by decide)

end DroidCam.VideoThreads
