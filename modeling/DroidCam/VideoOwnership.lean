import DroidCam.VideoThreadMoves

/-
  DroidCam/VideoOwnership.lean
  ============================
  Where the frame descriptors are.

  A descriptor is in `receive_queue`, in `decode_queue`, or in the hands of one of
  the two threads; `places` lists all of them.  `Step.places` says what a step can
  do to that list: reorder it, add a descriptor (`decoder_prepare_video`), or drop
  some (the end of a session).  From it follow

  * within one session, that no descriptor is lost or duplicated, that the video
    thread always finds an empty one, and the bound on `decode_queue`;
  * across sessions, that descriptors stay distinct as long as
    `decoder_prepare_video` finds both queues empty and the decode thread without
    a frame (`descriptors_distinct`), which nothing in the program ensures.
-/

namespace DroidCam.VideoThreads

open LabelledRun
open DroidCam.JpgDecoder DroidCam.Queue

variable {numFrames : Nat}

/-! ### Places

A descriptor is in receive_queue, in decode_queue or in the hands of one of the threads.
What a step does to this list is all that the rest needs to know of it. -/

/-- All descriptors in a queue or in a thread's hands, each as often as it is there. -/
def VideoState.places (s : VideoState numFrames) : List (Fin numFrames) :=
  s.receiveQueue ++ s.decodeQueue ++ s.vpc.held.toList ++ s.dpc.held.toList

theorem places_perm_of_same {s t : VideoState numFrames}
    (hreceive : t.receiveQueue = s.receiveQueue) (hdecode : t.decodeQueue = s.decodeQueue)
    (hvideo : t.vpc.held = s.vpc.held) (hprocess : t.dpc.held = s.dpc.held) :
    t.places.Perm s.places := by
  rw [VideoState.places, hreceive, hdecode, hvideo, hprocess]
  exact List.Perm.refl _

theorem count_places (s : VideoState numFrames) (i : Fin numFrames) :
    s.places.count i = s.receiveQueue.count i + s.decodeQueue.count i
      + s.vpc.held.toList.count i + s.dpc.held.toList.count i := by
  simp only [VideoState.places, List.count_append]

theorem places_prepareFrame {s t : VideoState numFrames} {i : Fin numFrames}
    {todo : List (Fin numFrames)} (hpc : s.vpc = .prepareFrames (i :: todo))
    (htpc : t.vpc = .prepareFrames todo) (hreceive : t.receiveQueue = queueAdd s.receiveQueue i)
    (hdecode : t.decodeQueue = s.decodeQueue) (hprocess : t.dpc.held = s.dpc.held) :
    t.places.Perm (i :: s.places) := by
  refine List.perm_iff_count.mpr fun j => ?_
  simp only [count_places, List.count_cons, hreceive, hdecode, hprocess, hpc, htpc, queueAdd,
    List.count_append, VideoPc.held, List.count_nil]
  omega

/-- The end of a session: the video thread puts down what it holds and cleans up. -/
def VideoPc.leaving : VideoPc numFrames → Bool
  | .earlyOut _ | .cleanup _ => true
  | _ => false

/-- The points at which the video thread takes a descriptor or puts it somewhere. -/
def VideoPc.handsOver : VideoPc numFrames → Bool
  | .prepareFrames (_ :: _) | .pull | .pushReceive _ | .pushDecode _ | .earlyOut _
  | .cleanup (_ :: _) => true
  | _ => false

/-- Everywhere else it only goes on, with what it has in its hands. -/
theorem VideoMove.places_same {s t : VideoState numFrames} {a : VideoAct} (h : VideoMove s a t)
    (hidle : s.vpc.handsOver = false) : t.places.Perm s.places := by
  cases h with
  | prepareFrame _ _ hpc | pull _ _ hpc | pushReceive _ hpc | pushDecode _ hpc | earlyOut _ hpc
  | cleanup _ _ hpc =>
      rw [hpc] at hidle
      cases hidle
  | _ =>
      refine places_perm_of_same rfl rfl ?_ rfl
      grind [VideoPc.held]

theorem VideoMove.places {s t : VideoState numFrames} {a : VideoAct} (h : VideoMove s a t) :
    t.places.Perm s.places ∨
      (∃ i todo, s.vpc = .prepareFrames (i :: todo) ∧ t.vpc = .prepareFrames todo ∧
        t.places.Perm (i :: s.places)) ∨
      (s.vpc.leaving = true ∧ t.vpc.leaving = true ∧ t.places.Sublist s.places) := by
  by_cases hidle : s.vpc.handsOver = false
  · exact Or.inl (h.places_same hidle)
  · cases h with
    | prepareFrame i todo hpc =>
        exact Or.inr (Or.inl ⟨i, todo, hpc, rfl, places_prepareFrame hpc rfl rfl rfl rfl⟩)
    | pull f rest hpc hnext =>
        cases f with
        | none =>
            obtain ⟨rfl, -⟩ := queueNext_eq_none hnext
            exact Or.inl (places_perm_of_same rfl rfl (by simp [hpc, VideoPc.held]) rfl)
        | some f =>
            obtain ⟨hqueue, -⟩ := queueNext_eq_some hnext
            refine Or.inl (List.perm_iff_count.mpr fun j => ?_)
            simp only [count_places, hqueue, hpc, VideoPc.held, List.count_cons, Option.toList,
              List.count_nil]
            omega
    -- from the hands of the thread into a queue
    | pushReceive f hpc | pushDecode f hpc =>
        refine Or.inl (List.perm_iff_count.mpr fun j => ?_)
        simp only [count_places, queueAdd, List.count_append, hpc, VideoPc.held, Option.toList,
          List.count_nil]
        omega
    | earlyOut f hpc =>
        -- what the loop was left with is never used again
        refine Or.inr (Or.inr ⟨by simp [hpc, VideoPc.leaving], rfl, ?_⟩)
        exact List.Sublist.append
          (List.Sublist.append (List.Sublist.refl _) (List.nil_sublist _)) (List.Sublist.refl _)
    -- each queue is cleared once, and a thread that waits in the other one loses
    -- nothing
    | cleanup c todo hpc =>
        refine Or.inr (Or.inr ⟨by simp [hpc, VideoPc.leaving], rfl, ?_⟩)
        cases c with
        | free r =>
            exact List.Sublist.append
              (List.Sublist.append (List.Sublist.refl _) (List.nil_sublist _)) (List.Sublist.refl _)
        | clearReceive =>
            exact List.Sublist.append
              (List.Sublist.append
                (List.Sublist.append (List.nil_sublist _) (List.Sublist.refl _))
                (List.nil_sublist _)) (List.Sublist.refl _)
        | clearDecode =>
            exact List.Sublist.append
              (List.Sublist.append
                (List.Sublist.append (List.Sublist.refl _) (List.nil_sublist _))
                (List.nil_sublist _)) (List.Sublist.refl _)
    | _ => simp_all [VideoPc.handsOver]

/-- The decode thread only moves descriptors around. -/
theorem DecodeMove.places {s t : VideoState numFrames} {a : DecodeAct} (h : DecodeMove s a t) :
    t.places.Perm s.places := by
  cases h with
  | pull f rest hpc hqueue hlimit =>
      refine List.perm_iff_count.mpr fun j => ?_
      simp only [count_places, hqueue, hpc, DecodePc.held, List.count_cons, Option.toList,
        List.count_nil]
      omega
  | push f hpc =>
      refine List.perm_iff_count.mpr fun j => ?_
      simp only [count_places, queueAdd, List.count_append, hpc, DecodePc.held, Option.toList,
        List.count_nil]
      omega
  | _ =>
      refine places_perm_of_same rfl rfl rfl ?_
      grind [DecodePc.held]

/-- **What one step does to the descriptors**: it moves them around, adds the next
    one of `decoder_prepare_video`, or drops some at the end of a session. -/
theorem Step.places {s t : VideoState numFrames} {a : Act} (h : Step s a t) :
    t.places.Perm s.places ∨
      (∃ i todo, a = .video .go ∧ s.vpc = .prepareFrames (i :: todo) ∧
        t.vpc = .prepareFrames todo ∧ t.places.Perm (i :: s.places)) ∨
      (s.vpc.leaving = true ∧ t.vpc.leaving = true ∧ t.places.Sublist s.places) := by
  cases h.move with
  | video a _ hmove =>
      rcases hmove.places with hsame | ⟨i, todo, hs, ht, hadd⟩ | hdrop
      · exact Or.inl hsame
      · refine Or.inr (Or.inl ⟨i, todo, ?_, hs, ht, hadd⟩)
        -- only one step of the video thread adds a descriptor
        cases hmove <;> simp_all
      · exact Or.inr (Or.inr hdrop)
  | decode a _ hmove => exact Or.inl hmove.places
  | stop => exact Or.inl (List.Perm.refl _)
  | start conn hvpc hdpc =>
      exact Or.inl (places_perm_of_same rfl rfl (by simp [hvpc, VideoPc.held])
        (by simp [hdpc, DecodePc.held]))
  | flip _ op _ => exact Or.inl (List.Perm.refl _)

/-- The decode thread has nothing to do. -/
def VideoState.Quiet (s : VideoState numFrames) : Prop := s.decodeQueue = [] ∧ s.dpc.held = none

/-- It gets something to do only from `push_jpg_frame(f, false)`. -/
theorem Step.quiet {s t : VideoState numFrames} {a : Act} (hs : s.Quiet) (h : Step s a t)
    (hpc : ∀ f, s.vpc ≠ .pushDecode f) : t.Quiet := by
  obtain ⟨hdecode, hidle⟩ := hs
  cases h.move with
  | video a _ hmove =>
      cases hmove with
      -- the one step that fills decode_queue
      | pushDecode f hpush => exact absurd hpush (hpc f)
      | cleanup c todo hcleanup => cases c <;> exact ⟨by first | exact hdecode | rfl, hidle⟩
      | _ => exact ⟨hdecode, hidle⟩
  | decode a _ hmove =>
      cases hmove with
      | loop hloop => exact ⟨hdecode, by cases s.vRunning <;> rfl⟩
      | pullNone hpull hlimit => exact ⟨hdecode, rfl⟩
      -- there is no frame to take
      | pull f rest hpull hqueue hlimit => simp [hdecode] at hqueue
      | _ => simp_all [DecodePc.held]
  | stop => exact ⟨hdecode, hidle⟩
  | start conn hvpc hdpc => exact ⟨hdecode, rfl⟩
  | flip _ op _ => exact ⟨hdecode, hidle⟩

/-- How `VideoThreadProc` gets into the loop over the descriptors and into the
    streaming loop. -/
theorem Step.enters {s t : VideoState numFrames} {a : Act} (h : Step s a t) :
    t.vpc = s.vpc ∨
      ((∀ todo, t.vpc = .prepareFrames todo → todo = List.finRange numFrames ∨
          ∃ i, a = .video .go ∧ s.vpc = .prepareFrames (i :: todo) ∧
            t.places.Perm (i :: s.places)) ∧
        (t.vpc.streaming = true → s.vpc.streaming = true ∨ s.vpc = .prepareFrames [])) := by
  cases h.move with
  | video a _ hmove =>
      right
      cases hmove with
      | prepareDecodeBuf ok pc hpc hnext =>
          refine ⟨fun todo htodo => ?_, ?_⟩
          · rcases hnext with rfl | rfl
            · cases htodo
            · cases htodo; exact Or.inl rfl
          · rcases hnext with rfl | rfl <;> simp [VideoPc.streaming]
      | prepareSwc ok hpc =>
          refine ⟨fun todo htodo => ?_, by simp [VideoPc.streaming]⟩
          cases htodo; exact Or.inl rfl
      | prepareFrame i todo hpc =>
          refine ⟨fun todo' htodo => ?_, by simp [VideoPc.streaming]⟩
          cases htodo
          exact Or.inr ⟨i, rfl, hpc, places_prepareFrame hpc rfl rfl rfl rfl⟩
      | _ => grind [VideoPc.streaming]
  | decode a _ hmove => exact Or.inl hmove.frame.vpc
  | stop => exact Or.inl rfl
  | start conn hvpc hdpc => right; simp [VideoPc.streaming]
  | flip _ op _ => exact Or.inl rfl

/-! ### One session

While a session goes on every descriptor is in one place. A thread that decides by the
length of a queue reads it without the mutex, so the length may have changed when it
acts. -/

/-- `decoder_prepare_video` has just succeeded: all descriptors are in
    `receive_queue`, and nothing of an earlier session is left. -/
structure Prepared (s : VideoState numFrames) : Prop where
  atLoop : s.vpc = .loop
  receive : s.receiveQueue.Perm (List.finRange numFrames)
  decode : s.decodeQueue = []
  idle : s.dpc.held = none

/-- The steps up to `decoder_cleanup`, where a `recv` of a payload either fails or
    is complete and fits the slot of its descriptor. -/
def InSession (s : VideoState numFrames) (a : Act) : Prop :=
  match s.vpc, a with
  | .earlyOut _, .video _ => False
  | .payload f, .video (.recv ret) =>
      0 < ret → ret = (s.frames f).length ∧
        SpanInSlot numFrames s.decoder.mYuv420Size f (s.frames f).data (s.frames f).length
  | _, _ => True

instance (s : VideoState numFrames) (a : Act) : Decidable (InSession s a) := by
  unfold InSession
  split <;> infer_instance

def VideoPc.inSession : VideoPc numFrames → Bool
  | .earlyOut _ => true
  | pc => pc.streaming

/-- The points at which the video thread counts on `receive_queue`: it is about to
    take a frame, or has seen that it is not empty. -/
def VideoPc.countsOnEmpty : VideoPc numFrames → Bool
  | .loop | .command | .pull | .pushLimit _ | .pushDecode _ => true
  | _ => false

structure Session (s : VideoState numFrames) : Prop where
  running : s.vpc.inSession = true
  distinct : s.places.Perm (List.finRange numFrames)
  nonempty : s.vpc.countsOnEmpty = true → s.receiveQueue ≠ []
  pulled : s.vpc ≠ .length none
  limit : s.decodeQueue.length ≤ s.decoder.mBufferLimit + 1
  room : ∀ f, s.vpc = .pushDecode f → s.decodeQueue.length ≤ s.decoder.mBufferLimit

theorem Prepared.session {s : VideoState numFrames} (hpos : 0 < numFrames) (h : Prepared s) :
    Session s where
  running := by simp [h.atLoop, VideoPc.inSession, VideoPc.streaming]
  distinct := by
    simpa [VideoState.places, h.decode, h.idle, h.atLoop, VideoPc.held] using h.receive
  nonempty := by
    intro _ hnil
    have hlen := h.receive.length_eq
    rw [hnil, List.length_finRange] at hlen
    simp at hlen
    omega
  pulled := by simp [h.atLoop]
  limit := by simp [h.decode]
  room := by simp [h.atLoop]

/-- The video thread moves descriptors around until it leaves the session. -/
theorem Session.places {s t : VideoState numFrames} {a : Act} (hs : Session s)
    (hok : InSession s a) (h : Step s a t) : t.places.Perm s.places := by
  have hrunning := hs.running
  rcases h.places with hsame | ⟨i, todo, -, hpc, -⟩ | ⟨hleaving, -, -⟩
  · exact hsame
  · simp [hpc, VideoPc.inSession, VideoPc.streaming] at hrunning
  · -- the only steps on the way out are those of the video thread
    cases h.move with
    | video a _ hmove =>
        cases hvpc : s.vpc <;>
          simp_all [VideoPc.leaving, VideoPc.inSession, VideoPc.streaming, InSession]
    | decode a _ hmove => exact hmove.places
    | stop => exact List.Perm.refl _
    | start conn hvpc hdpc => simp [hvpc, VideoPc.leaving] at hleaving
    | flip _ op _ => exact List.Perm.refl _

/-- The decode thread adds to `receive_queue` and takes from `decode_queue`. -/
theorem DecodeMove.queues {s t : VideoState numFrames} {a : DecodeAct} (h : DecodeMove s a t) :
    s.receiveQueue <+: t.receiveQueue ∧ t.decodeQueue <:+ s.decodeQueue := by
  cases h with
  | pull f rest hpc hqueue hlimit =>
      exact ⟨List.prefix_refl _, hqueue ▸ List.suffix_cons f rest⟩
  | push f hpc => exact ⟨List.prefix_append _ _, List.suffix_refl _⟩
  | _ => exact ⟨List.prefix_refl _, List.suffix_refl _⟩

theorem Session.videoMove {s t : VideoState numFrames} {a : VideoAct} (hs : Session s)
    (hok : InSession s (.video a)) (h : VideoMove s a t)
    (hdistinct : t.places.Perm (List.finRange numFrames)) : Session t := by
  have hrunning := hs.running
  cases h with
  | loop hpc =>
      have hne := hs.nonempty (by simp [hpc, VideoPc.countsOnEmpty])
      refine ⟨?_, hdistinct, fun _ => hne, ?_, hs.limit, ?_⟩ <;>
        cases s.vRunning <;> simp [VideoPc.inSession, VideoPc.streaming]
  | command hpc | control _ _ hpc =>
      have hne := hs.nonempty (by simp [hpc, VideoPc.countsOnEmpty])
      exact ⟨rfl, hdistinct, fun _ => hne, by simp, hs.limit, by simp⟩
  | pull f rest hpc hnext =>
      have hne := hs.nonempty (by simp [hpc, VideoPc.countsOnEmpty])
      refine ⟨rfl, hdistinct, by simp [VideoPc.countsOnEmpty], ?_, hs.limit, by simp⟩
      rintro hnone
      obtain rfl : f = none := by simpa using hnone
      have hlen := (queueNext_eq_none hnext).2
      exact hne (List.length_eq_zero_iff.mp (by omega))
  -- pull_empty_jpg_frame never comes back with NULL
  | crash ret bs hpc hrecv hret => exact absurd hpc hs.pulled
  | lengthFailed | length | payloadFailed | payload =>
      exact ⟨rfl, hdistinct, by simp [VideoPc.countsOnEmpty], by simp, hs.limit, by simp⟩
  | push f hpc =>
      -- the first unlocked read: only the decode thread touches the queue before the add,
      -- and it only adds to it
      by_cases hempty : s.receiveQueue.length = 0
      · refine ⟨?_, hdistinct, ?_, ?_, hs.limit, ?_⟩ <;>
          simp [hempty, VideoPc.inSession, VideoPc.streaming, VideoPc.countsOnEmpty]
      · have hne : s.receiveQueue ≠ [] := fun hnil => hempty (by simp [hnil])
        refine ⟨?_, hdistinct, fun _ => hne, ?_, hs.limit, ?_⟩ <;>
          simp [hempty, VideoPc.inSession, VideoPc.streaming]
  | pushLimit f hpc =>
      have hne := hs.nonempty (by simp [hpc, VideoPc.countsOnEmpty])
      by_cases hfull : s.decodeQueue.length > s.decoder.mBufferLimit
      · refine ⟨?_, hdistinct, fun _ => hne, ?_, hs.limit, ?_⟩ <;>
          simp [hfull, VideoPc.inSession, VideoPc.streaming]
      · refine ⟨?_, hdistinct, fun _ => hne, ?_, hs.limit, fun _ _ => not_lt.mp hfull⟩ <;>
          simp [hfull, VideoPc.inSession, VideoPc.streaming]
  | pushReceive f hpc =>
      exact ⟨rfl, hdistinct, fun _ => by simp [queueAdd], by simp, hs.limit, by simp⟩
  | pushDecode f hpc =>
      have hne := hs.nonempty (by simp [hpc, VideoPc.countsOnEmpty])
      refine ⟨rfl, hdistinct, fun _ => hne, by simp, ?_, by simp⟩
      have := hs.room f hpc
      simp only [queueAdd, List.length_append, List.length_singleton]
      omega
  -- the session ends here
  | earlyOut f hpc => simp [hpc, InSession] at hok
  | _ => simp_all [VideoPc.inSession, VideoPc.streaming]

theorem Session.step {s t : VideoState numFrames} {a : Act} (hs : Session s)
    (hok : InSession s a) (h : Step s a t) : Session t := by
  have hdistinct := (hs.places hok h).trans hs.distinct
  cases h.move with
  | video a _ hmove => exact hs.videoMove hok hmove hdistinct
  | decode a _ hmove =>
      obtain ⟨hreceive, hdecode⟩ := hmove.queues
      obtain ⟨subsamp, hdec⟩ := hmove.frame.decoder
      have hvpc := hmove.frame.vpc
      have hlen := hdecode.length_le
      -- the decode thread gives frames back and takes ready ones, which helps the video
      -- thread
      refine ⟨hvpc ▸ hs.running, hdistinct, ?_, hvpc ▸ hs.pulled, ?_, ?_⟩
      · intro hcounts hnil
        exact hs.nonempty (hvpc ▸ hcounts) (List.prefix_nil.mp (hnil ▸ hreceive))
      · rw [hdec]
        exact hlen.trans hs.limit
      · intro f hf
        rw [hdec]
        exact hlen.trans (hs.room f (hvpc ▸ hf))
  | stop => exact ⟨hs.running, hdistinct, hs.nonempty, hs.pulled, hs.limit, hs.room⟩
  | start conn hvpc hdpc =>
      have hrunning := hs.running
      simp [hvpc, VideoPc.inSession, VideoPc.streaming] at hrunning
  | flip _ op _ => exact ⟨hs.running, hdistinct, hs.nonempty, hs.pulled, hs.limit, hs.room⟩

/-! ### Across sessions -/

/-- `decoder_prepare_video` starts to put the descriptors into `receive_queue` when
    none is in a queue or in a thread's hands. -/
def QueuesDrained (s : VideoState numFrames) (a : Act) : Prop :=
  s.vpc = .prepareFrames (List.finRange numFrames) → a = .video .go → s.places = []

instance (s : VideoState numFrames) (a : Act) : Decidable (QueuesDrained s a) :=
  inferInstanceAs (Decidable (_ → _ → _))

structure Ledger (s : VideoState numFrames) : Prop where
  nodup : s.places.Nodup
  prepare : ∀ todo, s.vpc = .prepareFrames todo →
    todo = List.finRange numFrames ∨
      (s.places ++ todo).Perm (List.finRange numFrames) ∧ s.Quiet
  streaming : s.vpc.streaming = true → s.places.Perm (List.finRange numFrames)

theorem Ledger.init (fd : Int) (dec : JpgDecCtx) : Ledger (VideoState.init numFrames fd dec) where
  nodup := List.nodup_nil
  prepare := fun todo h => by cases h
  streaming := fun h => by cases h

/-- Outside the loop over the descriptors and the way out, descriptors only move. -/
theorem Step.places_kept {s t : VideoState numFrames} {a : Act} (h : Step s a t)
    (hprepare : ∀ i todo, s.vpc = .prepareFrames (i :: todo) → t.vpc ≠ .prepareFrames todo)
    (hleaving : t.vpc.leaving = false) : t.places.Perm s.places := by
  rcases h.places with hsame | ⟨i, todo, -, hpc, htpc, -⟩ | ⟨-, hleft, -⟩
  · exact hsame
  · exact absurd htpc (hprepare i todo hpc)
  · rw [hleaving] at hleft
    cases hleft

theorem Ledger.prepared_places {s : VideoState numFrames} (hs : Ledger s)
    (hpc : s.vpc = .prepareFrames []) : s.places.Perm (List.finRange numFrames) := by
  rcases hs.prepare [] hpc with hall | ⟨hrest, -⟩
  · have hzero : numFrames = 0 := by simpa using (congrArg List.length hall).symm
    subst hzero
    have hnone : s.places = [] := List.eq_nil_iff_forall_not_mem.mpr fun i _ => i.elim0
    rw [hnone, ← hall]
  · simpa using hrest

theorem Ledger.step {s t : VideoState numFrames} {a : Act} (hs : Ledger s)
    (hok : QueuesDrained s a) (h : Step s a t) : Ledger t := by
  have hadded : ∀ i todo, a = .video .go → s.vpc = .prepareFrames (i :: todo) →
      t.places.Perm (i :: s.places) →
        (t.places ++ todo).Perm (List.finRange numFrames) ∧ t.Quiet := by
    intro i todo ha hpc hadd
    have hcons : (t.places ++ todo).Perm (s.places ++ (i :: todo)) :=
      (hadd.append_right todo).trans List.perm_middle.symm
    have hquiet : s.Quiet → t.Quiet := fun hs => h.quiet hs (by simp [hpc])
    rcases hs.prepare _ hpc with hfirst | ⟨hrest, hidle⟩
    -- the first descriptor is added: the condition says that nothing is left
    · have hnone := hok (hfirst ▸ hpc) ha
      rw [hnone, hfirst] at hcons
      simp only [VideoState.places, List.append_eq_nil_iff, Option.toList_eq_nil_iff] at hnone
      exact ⟨hcons, hquiet ⟨hnone.1.1.2, hnone.2⟩⟩
    · exact ⟨hcons.trans hrest, hquiet hidle⟩
  refine ⟨?_, ?_, ?_⟩
  · rcases h.places with hsame | ⟨i, todo, ha, hpc, -, hadd⟩ | ⟨-, -, hdrop⟩
    · exact hsame.nodup_iff.mpr hs.nodup
    · have hall := (hadded i todo ha hpc hadd).1
      exact (hall.nodup_iff.mpr (List.nodup_finRange _)).sublist (List.sublist_append_left _ _)
    · exact hs.nodup.sublist hdrop
  -- in the loop over the descriptors those added so far and those to come are all of
  -- them
  · intro todo htodo
    rcases h.enters with hvpc | ⟨henter, -⟩
    · have hkept := h.places_kept (fun i todo' hpc htpc => by simp_all) (by
        simp [htodo, VideoPc.leaving])
      rcases hs.prepare todo (hvpc ▸ htodo) with hall | ⟨hrest, hidle⟩
      · exact Or.inl hall
      · refine Or.inr ⟨(hkept.append_right todo).trans hrest, h.quiet hidle ?_⟩
        simp [← hvpc, htodo]
    -- the loop is entered, or has gone on by one
    · rcases henter todo htodo with hall | ⟨i, ha, hpc, hadd⟩
      · exact Or.inl hall
      · exact Or.inr (hadded i todo ha hpc hadd)
  -- the session starts from the end of that loop and keeps its descriptors
  · intro hstreaming
    have hkept : t.places.Perm s.places := by
      refine h.places_kept (fun i todo hpc htpc => ?_) ?_
      · simp [htpc, VideoPc.streaming] at hstreaming
      · cases hvpc : t.vpc <;> simp_all [VideoPc.streaming, VideoPc.leaving]
    rcases h.enters with hvpc | ⟨-, henter⟩
    · exact hkept.trans (hs.streaming (hvpc ▸ hstreaming))
    · rcases henter hstreaming with hstream | hlast
      · exact hkept.trans (hs.streaming hstream)
      · exact hkept.trans (hs.prepared_places hlast)

theorem Ledger.reachable {fd : Int} {dec : JpgDecCtx} {as : List Act} {s : VideoState numFrames}
    (h : Run (Guarded QueuesDrained Step) (VideoState.init numFrames fd dec) as s) : Ledger s :=
  h.invariant (fun _ _ _ hs hstep => hs.step hstep.1 hstep.2) (Ledger.init fd dec)

/-- A successful `decoder_prepare_video` leaves all descriptors in `receive_queue`. -/
theorem Ledger.prepared {s t : VideoState numFrames} {a : Act} (hpos : 0 < numFrames)
    (hs : Ledger s) (hpc : s.vpc = .prepareFrames []) (h : Step s a t) (ht : t.vpc = .loop) :
    Prepared t := by
  have hplaces := hs.prepared_places hpc
  have hquiet : s.Quiet := by
    rcases hs.prepare [] hpc with hall | ⟨-, hidle⟩
    · have hzero : numFrames = 0 := by simpa using (congrArg List.length hall).symm
      omega
    · exact hidle
  have hkept : t.places.Perm s.places :=
    h.places_kept (fun i todo hcons htodo => by simp [ht] at htodo) (by simp [ht, VideoPc.leaving])
  obtain ⟨hdecode, hidle⟩ := h.quiet hquiet (by simp [hpc])
  refine ⟨ht, ?_, hdecode, hidle⟩
  have hall := hkept.trans hplaces
  simpa [VideoState.places, hdecode, hidle, ht, VideoPc.held] using hall

/-- The loop over the descriptors has come to `u`, and `before` is what was there
    when it started. -/
def Readding (before : List (Fin numFrames)) (u : VideoState numFrames) : Prop :=
  (∀ todo, u.vpc = .prepareFrames todo →
    (u.places ++ todo).Perm (List.finRange numFrames ++ before)) ∧
  (u.vpc = .loop → u.places.Perm (List.finRange numFrames ++ before))

theorem Readding.step {before : List (Fin numFrames)} {s t : VideoState numFrames} {a : Act}
    {todo : List (Fin numFrames)} (hs : Readding before s) (hpc : s.vpc = .prepareFrames todo)
    (h : Step s a t) : Readding before t := by
  have hplaces := hs.1 todo hpc
  have hstays : t.vpc = s.vpc → t.places.Perm s.places → Readding before t := by
    intro hvpc hsame
    refine ⟨fun todo' htodo => ?_, fun hloop => ?_⟩
    · obtain rfl : todo = todo' := by simpa [hvpc, hpc] using htodo
      exact (hsame.append_right todo).trans hplaces
    · simp [hvpc, hpc] at hloop
  cases h.move with
  | video a _ hmove =>
      cases hmove with
      | prepared hnil =>
          obtain rfl : todo = [] := by simpa [hpc] using hnil
          refine ⟨fun todo' htodo => by simp at htodo, fun _ => ?_⟩
          simpa [VideoState.places, hpc, VideoPc.held] using hplaces
      -- one descriptor changes from those to come to those in place
      | prepareFrame i rest hcons =>
          obtain rfl : todo = i :: rest := by simpa [hpc] using hcons
          refine ⟨fun todo' htodo => ?_, fun hloop => by simp at hloop⟩
          obtain rfl : rest = todo' := by simpa using htodo
          have hadd := places_prepareFrame (t := { s with
            frames := Function.update s.frames i ⟨frameData s.decoder.mYuv420Size i, 0⟩
            receiveQueue := queueAdd s.receiveQueue i, vpc := .prepareFrames rest })
            hpc rfl rfl rfl rfl
          exact ((hadd.append_right rest).trans List.perm_middle.symm).trans hplaces
      | _ => simp_all
  | decode a _ hmove => exact hstays hmove.frame.vpc hmove.places
  | stop => exact hstays rfl (List.Perm.refl _)
  | start conn hvpc hdpc => simp [hpc] at hvpc
  | flip _ op _ => exact hstays rfl (List.Perm.refl _)

/-- The video thread is in the loop over the descriptors. -/
def InReaddLoop (s : VideoState numFrames) (_ : Act) : Prop := ∃ todo, s.vpc = .prepareFrames todo

/-- `InReaddLoop`, computed. -/
def VideoPc.readding : VideoPc numFrames → Bool
  | .prepareFrames _ => true
  | _ => false

theorem readding_iff {s : VideoState numFrames} {a : Act} :
    s.vpc.readding = true ↔ InReaddLoop s a := by
  cases hpc : s.vpc <;> simp [VideoPc.readding, InReaddLoop, hpc]

instance (s : VideoState numFrames) (a : Act) : Decidable (InReaddLoop s a) :=
  decidable_of_iff _ readding_iff

theorem readded_places {s t : VideoState numFrames} {as : List Act}
    (hpc : s.vpc = .prepareFrames (List.finRange numFrames))
    (hrun : Run (Guarded InReaddLoop Step) s as t) (ht : t.vpc = .loop) :
    t.places.Perm (List.finRange numFrames ++ s.places) := by
  have hstart : Readding s.places s := by
    refine ⟨fun todo htodo => ?_, fun hloop => by simp [hpc] at hloop⟩
    obtain rfl : List.finRange numFrames = todo := by simpa [hpc] using htodo
    exact List.perm_append_comm
  exact (hrun.invariant (fun _ _ _ hu hstep => hu.step hstep.1.choose_spec hstep.2) hstart).2 ht

theorem count_places_of_perm {s : VideoState numFrames}
    (h : s.places.Perm (List.finRange numFrames)) (i : Fin numFrames) : s.places.count i = 1 := by
  rw [h.count_eq]
  exact List.count_eq_one_of_mem (List.nodup_finRange _) (List.mem_finRange i)

/-- What one thread holds, the other does not. -/
theorem held_ne_of_nodup {s : VideoState numFrames} (h : s.places.Nodup) {f : Fin numFrames}
    (hf : s.vpc.held = some f) : s.dpc.held ≠ some f := by
  intro hboth
  have hcount := List.nodup_iff_count_le_one.mp h f
  simp only [count_places, hf, hboth, Option.toList, List.count_singleton_self] at hcount
  omega

/-- **Descriptors stay distinct from session to session exactly when
    `decoder_prepare_video` finds none left over.**  In a run where it always does,
    every descriptor is in one place at most, each session streams with all of
    them, and the frame being received is not the one being decoded.  When one is
    left over, it is twice in the queues once the streaming loop is reached. -/
theorem descriptors_distinct (fd : Int) (dec : JpgDecCtx) :
    (∀ as (s : VideoState numFrames),
      Run (Guarded QueuesDrained Step) (VideoState.init numFrames fd dec) as s →
        s.places.Nodup ∧ (s.vpc.streaming = true → ∀ i, s.places.count i = 1) ∧
          ∀ f, s.vpc = .payload f → s.dpc.held ≠ some f) ∧
      ∀ as (s t : VideoState numFrames), s.vpc = .prepareFrames (List.finRange numFrames) →
        Run (Guarded InReaddLoop Step) s as t → t.vpc = .loop →
          (t.places.Nodup ↔ s.places = []) := by
  refine ⟨fun as s hrun => ?_, fun as s t hpc hrun ht => ?_⟩
  · have hs : Ledger s := Ledger.reachable hrun
    refine ⟨hs.nodup, fun hstreaming i => count_places_of_perm (hs.streaming hstreaming) i, ?_⟩
    intro f hpc
    exact held_ne_of_nodup hs.nodup (by simp [hpc, VideoPc.held])
  · have hplaces := readded_places hpc hrun ht
    constructor
    · intro hnodup
      refine List.eq_nil_iff_forall_not_mem.mpr fun f hf => ?_
      -- what the loop adds is every descriptor, so one that was there before is there
      -- twice
      have hdisjoint := List.nodup_append.mp (hplaces.nodup_iff.mp hnodup)
      exact hdisjoint.2.2 f (List.mem_finRange f) f hf rfl
    · intro hnil
      rw [hnil, List.append_nil] at hplaces
      exact hplaces.nodup_iff.mpr (List.nodup_finRange _)

/-- One turn of the streaming loop with a frame of `n` bytes that goes to
    `decode_queue`, and the decode thread up to `process_frame` on it. -/
def receiveAndDecode (n : Nat) : List Act :=
  receiveLength ++ [.video (.recv n)] ++ List.replicate 3 (.video .go)
    ++ List.replicate 2 (.decode .go)

/-- The video thread leaves its loop, cleans up and ends. -/
def leaveSession : List Act := List.replicate 11 (.video .go)

/-- The decode thread gives up on its frame, puts it into `receive_queue`, and ends. -/
def giveUpFrame : List Act := [.decode (.tjHeader none)] ++ List.replicate 2 (.decode .go)

theorem descriptors_distinct_second_session :
    ∃ s, Run Step pipelineInit (startSession (streamOf4x4 20) ++ receiveAndDecode 20 ++
        giveUpFrame.take 2 ++ [.stop] ++ leaveSession ++ [.decode .go] ++
        startSession (streamOf4x4 20) ++ receiveLength) s ∧
      s.vpc = .payload 0 ∧ s.places.Nodup := by
  obtain ⟨s, hs, hpc⟩ := Option.map_eq_some_iff.mp (by decide +kernel :
    (execute (guard QueuesDrained next) pipelineInit (startSession (streamOf4x4 20) ++
      receiveAndDecode 20 ++ giveUpFrame.take 2 ++ [.stop] ++ leaveSession ++ [.decode .go] ++
      startSession (streamOf4x4 20) ++ receiveLength)).map (fun s => s.vpc) = some (.payload 0))
  have hrun := Run.of_execute_guard hs
  exact ⟨s, hrun.of_guarded, hpc, ((descriptors_distinct 1 (decoderInit 320 240)).1 _ s hrun).1⟩

/-- `Stop` while the decode thread is in `process_frame`: the frame it then returns
    is there beside the ones the next session adds. -/
theorem descriptors_duplicated :
    ¬ ∀ as (s : VideoState JPG_BACKBUF_MAX), Run Step pipelineInit as s → s.places.Nodup := by
  intro h
  obtain ⟨s, hs, hplaces⟩ := Option.map_eq_some_iff.mp (by decide +kernel :
    (execute next pipelineInit (startSession (streamOf4x4 20) ++ receiveAndDecode 20 ++ [.stop] ++
      leaveSession ++ giveUpFrame ++ startSession (streamOf4x4 20))).map (fun s => s.places) =
        some [0, 0, 1, 2])
  have hnodup := h _ s (Run.of_execute hs)
  rw [hplaces] at hnodup
  exact absurd hnodup (by decide)

end DroidCam.VideoThreads
