import DroidCam.VideoThreads

/-
  DroidCam/VideoThreadMoves.lean
  ==============================
  What one step of each video thread can do, as one case per transition.

  `videoStep` and `decodeStep` are the program; `VideoMove` and `DecodeMove` list
  their successful transitions with the guard under which each is taken.  Every
  invariant of the pipeline is proved by cases on these lists and never opens the
  step functions again.
-/

namespace DroidCam.VideoThreads

open CArith ByteMemory LabelledRun
open DroidCam.JpgDecoder DroidCam.Queue

variable {numFrames : Nat}

/-! ### System calls -/

/-- What a `recv` with result `ret` delivered. -/
theorem recvAll_eq_some {stream bs : List UInt8} {bytes ret : Int}
    (h : recvAll stream bytes ret = some bs) :
    (ret ≤ 0 ∧ bs = []) ∨
      (0 < ret ∧ ret ≤ toSize bytes ∧ bs = stream.take ret.toNat ∧ (bs.length : Int) = ret) := by
  unfold recvAll at h
  by_cases hret : ret ≤ 0
  · rw [if_pos hret] at h
    split at h
    · exact Or.inl ⟨hret, by simpa using h.symm⟩
    · simp at h
  · rw [if_neg hret] at h
    split at h
    · rename_i hfits
      obtain rfl : stream.take ret.toNat = bs := by simpa using h
      refine Or.inr ⟨by omega, hfits.1, rfl, ?_⟩
      rw [List.length_take]
      omega
    · simp at h

/-! ### The video thread

The step functions are tables over the program counter. Each entry becomes a constructor
with what it tests, so that no proof about a step unfolds the table again. -/

inductive VideoMove (s : VideoState numFrames) : VideoAct → VideoState numFrames → Prop
  | resume (hpc : s.vpc = .serverWait) : VideoMove s .go { s with vpc := .request }
  | refused (hpc : s.vpc = .serverWait) :
      VideoMove s (.accept none) { s with vpc := .earlyOut none }
  | accepted (stream : List UInt8) (hpc : s.vpc = .serverWait) :
      VideoMove s (.accept (some stream))
        { s with connected := true, keepWaiting := true, stream := stream,
                 received := [], pushed := [], seen := [], taken := [], vpc := .request }
  | request (ok : Bool) (hpc : s.vpc = .request) :
      VideoMove s (.send ok) { s with vpc := if ok then .header else .earlyOut none }
  | header (ret : Int) (bs : List UInt8) (hpc : s.vpc = .header)
      (hrecv : recvAll s.stream 9 ret = some bs) :
      VideoMove s (.recv ret)
        { s with stream := s.stream.drop bs.length
                 buf := overwrite (List.replicate 32 0) bs
                 taken := if ret ≤ 0 then s.taken else s.taken ++ [(9, bs.length)]
                 vpc := if ret ≤ 0 then .earlyOut none else .prepareHeader }
  | prepareHeader (w h : Int) (pc : VideoPc numFrames) (hpc : s.vpc = .prepareHeader)
      (hw : w = be16 (s.buf.getD 0 0) (s.buf.getD 1 0))
      (hh : h = be16 (s.buf.getD 2 0) (s.buf.getD 3 0))
      (hnext : pc = .earlyOut none ∨ pc = .prepareTj) :
      VideoMove s .go
        { s with decoder := { s.decoder with mWidth := w, mHeight := h }
                 session := s.session + 1, vpc := pc }
  | prepareTj (ok : Bool) (hpc : s.vpc = .prepareTj) :
      VideoMove s (.alloc ok)
        { s.allocate .tj ok with vpc := if ok then .prepareTjXform else .earlyOut none }
  | prepareTjXform (ok : Bool) (hpc : s.vpc = .prepareTjXform) :
      VideoMove s (.alloc ok)
        { s.allocate .tjXform ok with
          decoder := if ok then setStreamSizes s.decoder else s.decoder
          vpc := if ok then .prepareInBuf else .earlyOut none }
  | prepareInBuf (ok : Bool) (hpc : s.vpc = .prepareInBuf) :
      VideoMove s (.alloc ok)
        { s.allocate .inBuf
            (mallocSucceeds (inBufBytes numFrames s.decoder.mYuv420Size) ok) with
          inBufSize := inBufBytes numFrames s.decoder.mYuv420Size, vpc := .prepareDecodeBuf }
  | prepareDecodeBuf (ok : Bool) (pc : VideoPc numFrames) (hpc : s.vpc = .prepareDecodeBuf)
      (hnext : pc = .prepareWebcamBuf ∨ pc = .prepareFrames (List.finRange numFrames)) :
      VideoMove s (.alloc ok)
        { s.allocate .decodeBuf (mallocSucceeds (toSize s.decoder.mYuv420Size) ok) with
          scaling := false, vpc := pc }
  | prepareWebcamBuf (ok : Bool) (hpc : s.vpc = .prepareWebcamBuf) :
      VideoMove s (.alloc ok)
        { s.allocate .webcamBuf (mallocSucceeds (toSize s.decoder.mWebcamYuvSize) ok) with
          vpc := .prepareSwc }
  | prepareSwc (ok : Bool) (hpc : s.vpc = .prepareSwc) :
      VideoMove s (.alloc ok)
        { s.allocate .swc ok with
          scaling := ok, vpc := .prepareFrames (List.finRange numFrames) }
  | prepared (hpc : s.vpc = .prepareFrames []) : VideoMove s .go { s with vpc := .loop }
  | prepareFrame (i : Fin numFrames) (todo : List (Fin numFrames))
      (hpc : s.vpc = .prepareFrames (i :: todo)) :
      VideoMove s .go
        { s with frames := Function.update s.frames i ⟨frameData s.decoder.mYuv420Size i, 0⟩
                 receiveQueue := queueAdd s.receiveQueue i, vpc := .prepareFrames todo }
  | loop (hpc : s.vpc = .loop) :
      VideoMove s .go { s with vpc := if s.vRunning then .command else .earlyOut none }
  | command (hpc : s.vpc = .command) : VideoMove s .go { s with vpc := .pull }
  | control (threadCmd : Nat) (val : String) (hpc : s.vpc = .command) :
      VideoMove s (.control threadCmd val)
        { s with buf := snprintfBuf s.buf (otherReq threadCmd val), vpc := .pull }
  | pull (f : Option (Fin numFrames)) (rest : List (Fin numFrames)) (hpc : s.vpc = .pull)
      (hnext : queueNext s.receiveQueue 0 = (f, rest)) :
      VideoMove s .go { s with receiveQueue := rest, vpc := .length f }
  | lengthFailed (ret : Int) (bs : List UInt8) (f : Option (Fin numFrames))
      (hpc : s.vpc = .length f) (hrecv : recvAll s.stream 4 ret = some bs) (hret : ret ≤ 0) :
      VideoMove s (.recv ret)
        { s with stream := s.stream.drop bs.length, buf := overwrite s.buf bs
                 vpc := .earlyOut f }
  -- *f is written through the NULL that pull_empty_jpg_frame has returned
  | crash (ret : Int) (bs : List UInt8) (hpc : s.vpc = .length none)
      (hrecv : recvAll s.stream 4 ret = some bs) (hret : 0 < ret) :
      VideoMove s (.recv ret)
        { s with stream := s.stream.drop bs.length, buf := overwrite s.buf bs
                 taken := s.taken ++ [(4, bs.length)], vpc := .crash }
  | length (ret : Int) (bs : List UInt8) (f : Fin numFrames) (hpc : s.vpc = .length (some f))
      (hrecv : recvAll s.stream 4 ret = some bs) (hret : 0 < ret) :
      VideoMove s (.recv ret)
        { s with stream := s.stream.drop bs.length, buf := overwrite s.buf bs
                 frames := Function.update s.frames f
                   ⟨(s.frames f).data, le32 (overwrite s.buf bs)⟩
                 taken := s.taken ++ [(4, bs.length)], vpc := .payload f }
  | payloadFailed (ret : Int) (bs : List UInt8) (f : Fin numFrames) (hpc : s.vpc = .payload f)
      (hrecv : recvAll s.stream (toInt32 (s.frames f).length) ret = some bs) (hret : ret ≤ 0) :
      VideoMove s (.recv ret)
        { s with stream := s.stream.drop bs.length
                 inBuf := write s.inBuf (s.frames f).data bs, vpc := .earlyOut (some f) }
  | payload (ret : Int) (bs : List UInt8) (f : Fin numFrames) (hpc : s.vpc = .payload f)
      (hrecv : recvAll s.stream (toInt32 (s.frames f).length) ret = some bs) (hret : 0 < ret) :
      VideoMove s (.recv ret)
        { s with stream := s.stream.drop bs.length
                 inBuf := write s.inBuf (s.frames f).data bs
                 frameSession := Function.update s.frameSession f s.session
                 received := s.received ++ [bs]
                 taken := s.taken ++ [(((s.frames f).length : Int), bs.length)]
                 vpc := .push f }
  | push (f : Fin numFrames) (hpc : s.vpc = .push f) :
      -- the two sizes are read one after the other, and without the mutexes
      VideoMove s .go
        { s with pushed := s.pushed ++ [s.payload f]
                 vpc := if s.receiveQueue.length = 0 then .pushReceive f else .pushLimit f }
  | pushLimit (f : Fin numFrames) (hpc : s.vpc = .pushLimit f) :
      VideoMove s .go
        { s with vpc := if s.decodeQueue.length > s.decoder.mBufferLimit then .pushReceive f
                        else .pushDecode f }
  | pushReceive (f : Fin numFrames) (hpc : s.vpc = .pushReceive f) :
      VideoMove s .go { s with receiveQueue := queueAdd s.receiveQueue f, vpc := .loop }
  | pushDecode (f : Fin numFrames) (hpc : s.vpc = .pushDecode f) :
      VideoMove s .go { s with decodeQueue := queueAdd s.decodeQueue f, vpc := .loop }
  | earlyOut (f : Option (Fin numFrames)) (hpc : s.vpc = .earlyOut f) :
      VideoMove s .go { s with connected := false, vpc := .cleanup decoderCleanup }
  | cleanup (c : CleanupStep) (todo : List CleanupStep) (hpc : s.vpc = .cleanup (c :: todo)) :
      VideoMove s .go { s.cleanupStep c with vpc := .cleanup todo }
  | finish (hpc : s.vpc = .cleanup []) :
      VideoMove s .go
        { s with vpc := if s.vRunning && s.keepWaiting then .serverWait else .ended }

/-- Every step of `VideoThreadProc` is one of the moves. -/
theorem videoStep_move {s t : VideoState numFrames} {a : VideoAct}
    (h : videoStep s a = some t) : VideoMove s a t := by
  unfold videoStep at h
  split at h
  case h_1 hpc =>
    split at h
    · cases h; exact .resume hpc
    · cases h
  case h_2 conn hpc =>
    split at h
    · cases h
    · cases conn with
      | none => cases h; exact .refused hpc
      | some stream => cases h; exact .accepted stream hpc
  case h_3 ok hpc => cases h; exact .request ok hpc
  case h_4 ret hpc =>
    obtain ⟨bs, hrecv, rfl⟩ := Option.map_eq_some_iff.mp h
    exact .header ret bs hpc hrecv
  case h_5 hpc =>
    cases h
    refine .prepareHeader _ _ _ hpc rfl rfl ?_
    split
    · exact Or.inl rfl
    · exact Or.inr rfl
  case h_6 ok hpc => cases h; exact .prepareTj ok hpc
  case h_7 ok hpc => cases h; exact .prepareTjXform ok hpc
  case h_8 ok hpc => cases h; exact .prepareInBuf ok hpc
  case h_9 ok hpc =>
    cases h
    refine .prepareDecodeBuf ok _ hpc ?_
    split
    · exact Or.inl rfl
    · exact Or.inr rfl
  case h_10 ok hpc => cases h; exact .prepareWebcamBuf ok hpc
  case h_11 ok hpc => cases h; exact .prepareSwc ok hpc
  case h_12 hpc => cases h; exact .prepared hpc
  case h_13 i todo hpc => cases h; exact .prepareFrame i todo hpc
  case h_14 hpc => cases h; exact .loop hpc
  case h_15 hpc => cases h; exact .command hpc
  case h_16 threadCmd val hpc => cases h; exact .control threadCmd val hpc
  case h_17 hpc =>
    cases h
    exact .pull (queueNext s.receiveQueue 0).1 (queueNext s.receiveQueue 0).2 hpc rfl
  case h_18 f ret hpc =>
    obtain ⟨bs, hrecv, rfl⟩ := Option.map_eq_some_iff.mp h
    by_cases hret : ret ≤ 0
    · simp only [if_pos hret]
      exact .lengthFailed ret bs f hpc hrecv hret
    · simp only [if_neg hret]
      cases f with
      -- nothing was tested since the pull
      | none => exact .crash ret bs hpc hrecv (by omega)
      | some f => exact .length ret bs f hpc hrecv (by omega)
  case h_19 f ret hpc =>
    obtain ⟨bs, hrecv, rfl⟩ := Option.map_eq_some_iff.mp h
    by_cases hret : ret ≤ 0
    · simp only [if_pos hret]
      exact .payloadFailed ret bs f hpc hrecv hret
    · simp only [if_neg hret]
      exact .payload ret bs f hpc hrecv (by omega)
  case h_20 f hpc => cases h; exact .push f hpc
  case h_21 f hpc => cases h; exact .pushLimit f hpc
  case h_22 f hpc => cases h; exact .pushReceive f hpc
  case h_23 f hpc => cases h; exact .pushDecode f hpc
  case h_24 f hpc => cases h; exact .earlyOut f hpc
  case h_25 c todo hpc => cases h; exact .cleanup c todo hpc
  case h_26 hpc => cases h; exact .finish hpc
  case h_27 => cases h

/-! ### The decode thread -/

inductive DecodeMove (s : VideoState numFrames) : DecodeAct → VideoState numFrames → Prop
  | loop (hpc : s.dpc = .loop) :
      DecodeMove s .go { s with dpc := if s.vRunning then .pull else .ended }
  | pullNone (hpc : s.dpc = .pull)
      (hlimit : s.decodeQueue.length ≤ s.decoder.mBufferLimit) :
      DecodeMove s .go { s with dpc := .loop }
  | pull (f : Fin numFrames) (rest : List (Fin numFrames)) (hpc : s.dpc = .pull)
      (hqueue : s.decodeQueue = f :: rest)
      (hlimit : s.decoder.mBufferLimit < s.decodeQueue.length) :
      DecodeMove s .go { s with decodeQueue := rest, dpc := .process f .header }
  -- process_frame reads the header of the first frame only
  | headerKnown (f : Fin numFrames) (hpc : s.dpc = .process f .header)
      (hsubsamp : s.decoder.subsamp ≠ 0) :
      DecodeMove s .go
        { s with dframe := s.frames f, seen := s.seen ++ [s.payload f]
                 dpc := .process f .transform }
  | headerBad (header : Option (Int × Int × Int)) (f : Fin numFrames)
      (hpc : s.dpc = .process f .header) (hsubsamp : s.decoder.subsamp = 0) :
      DecodeMove s (.tjHeader header)
        { s with dframe := s.frames f, seen := s.seen ++ [s.payload f], dpc := .push f }
  | headerGood (f : Fin numFrames) (hpc : s.dpc = .process f .header)
      (hsubsamp : s.decoder.subsamp = 0) :
      DecodeMove s (.tjHeader (some (s.decoder.mWidth, s.decoder.mHeight, TJSAMP_420)))
        { s with dframe := s.frames f, seen := s.seen ++ [s.payload f]
                 decoder := { s.decoder with subsamp := TJSAMP_420 }
                 dpc := .process f .transform }
  | noTransform (f : Fin numFrames) (hpc : s.dpc = .process f .transform)
      (hop : s.decoder.transformOp = .none) :
      DecodeMove s .go { s with dpc := .process f .decompress }
  -- tjTransform writes over the frame that it reads, and no more than its length
  | transform (ok : Bool) (out : List UInt8) (f : Fin numFrames)
      (hpc : s.dpc = .process f .transform) (hop : s.decoder.transformOp ≠ .none)
      (hout : out.length ≤ s.dframe.length) :
      DecodeMove s (.tjTransform ok out)
        { s with inBuf := write s.inBuf s.dframe.data out
                 dpc := if ok then .process f .decompress else .push f }
  | decompress (ok : Bool) (f : Fin numFrames) (hpc : s.dpc = .process f .decompress) :
      DecodeMove s (.tjDecompress ok)
        { s with dpc := if ok then .process f .scale else .push f }
  | scale (f : Fin numFrames) (hpc : s.dpc = .process f .scale) :
      DecodeMove s .go { s with dpc := .process f .write }
  | write (f : Fin numFrames) (hpc : s.dpc = .process f .write) :
      DecodeMove s .go { s with dpc := .push f }
  | push (f : Fin numFrames) (hpc : s.dpc = .push f) :
      DecodeMove s .go { s with receiveQueue := queueAdd s.receiveQueue f, dpc := .loop }

/-- Every step of `DecodeThreadProc` is one of the moves. -/
theorem decodeStep_move {s t : VideoState numFrames} {a : DecodeAct}
    (h : decodeStep s a = some t) : DecodeMove s a t := by
  unfold decodeStep at h
  split at h
  case h_1 hpc => cases h; exact .loop hpc
  case h_2 hpc =>
    split at h
    · rename_i hnext
      cases h
      exact .pullNone hpc (queueNext_eq_none hnext).2
    · rename_i f rest hnext
      obtain ⟨hqueue, hlimit⟩ := queueNext_eq_some hnext
      cases h
      exact .pull f rest hpc hqueue hlimit
  case h_3 f hpc =>
    split at h
    · cases h
    · rename_i hsubsamp
      cases h; exact .headerKnown f hpc hsubsamp
  case h_4 f header hpc =>
    split at h
    · cases h
    · rename_i hsubsamp
      have hzero : s.decoder.subsamp = 0 := not_not.mp hsubsamp
      split at h
      · cases h; exact .headerBad none f hpc hzero
      · rename_i width height subsamp
        -- all three values have to be those of the stream
        split at h
        · cases h; exact .headerBad _ f hpc hzero
        · rename_i hgood
          simp only [not_or, not_not] at hgood
          obtain ⟨rfl, rfl, rfl⟩ := hgood
          cases h
          exact .headerGood f hpc hzero
  case h_5 f hpc =>
    split at h
    · rename_i hop
      cases h; exact .noTransform f hpc hop
    · cases h
  case h_6 f ok out hpc =>
    split at h
    · rename_i hguard
      cases h; exact .transform ok out f hpc hguard.1 hguard.2
    · cases h
  case h_7 f ok hpc => cases h; exact .decompress ok f hpc
  case h_8 f hpc => cases h; exact .scale f hpc
  case h_9 f hpc => cases h; exact .write f hpc
  case h_10 f hpc => cases h; exact .push f hpc
  case h_11 => cases h

/-- What the decode thread never touches: the video thread, the descriptors and the
    objects the session allocated. -/
structure DecodeFrame (s t : VideoState numFrames) : Prop where
  vpc : t.vpc = s.vpc
  vRunning : t.vRunning = s.vRunning
  resources : t.resources = s.resources
  inBufSize : t.inBufSize = s.inBufSize
  frames : t.frames = s.frames
  session : t.session = s.session
  scaling : t.scaling = s.scaling
  frameSession : t.frameSession = s.frameSession
  decoder : ∃ subsamp, t.decoder = { s.decoder with subsamp := subsamp }
  stream : t.stream = s.stream
  buf : t.buf = s.buf
  received : t.received = s.received
  pushed : t.pushed = s.pushed
  taken : t.taken = s.taken

theorem DecodeMove.frame {s t : VideoState numFrames} {a : DecodeAct} (h : DecodeMove s a t) :
    DecodeFrame s t := by
  cases h <;> exact ⟨rfl, rfl, rfl, rfl, rfl, rfl, rfl, rfl, ⟨_, rfl⟩, rfl, rfl, rfl, rfl, rfl⟩

/-! ### The client -/

inductive Move (s : VideoState numFrames) : Act → VideoState numFrames → Prop
  | video (a : VideoAct) (t : VideoState numFrames) (h : VideoMove s a t) : Move s (.video a) t
  | decode (a : DecodeAct) (t : VideoState numFrames) (h : DecodeMove s a t) :
      Move s (.decode a) t
  | stop : Move s .stop { s with vRunning := false }
  | start (conn : Option (List UInt8)) (hvpc : s.vpc = .ended) (hdpc : s.dpc = .ended) :
      Move s (.start conn)
        { s with vRunning := true, keepWaiting := false,
                 connected := conn.isSome, stream := conn.getD [],
                 received := [], pushed := [], seen := [], taken := [],
                 vpc := .serverWait, dpc := .loop }
  | flip (a : Act) (op : TjxOp) (ha : a = .hflip ∨ a = .vflip) :
      Move s a { s with decoder := { s.decoder with transformOp := op } }

theorem Step.move {s t : VideoState numFrames} {a : Act} (h : Step s a t) : Move s a t := by
  cases a with
  | video a => exact .video a t (videoStep_move h)
  | decode a => exact .decode a t (decodeStep_move h)
  | stop => cases h; exact .stop
  | start conn =>
      simp only [Step, ofNext, next] at h
      split at h
      · rename_i hguard
        cases h; exact .start conn hguard.1 hguard.2.1
      · cases h
  | hflip => cases h; exact .flip .hflip _ (Or.inl rfl)
  | vflip => cases h; exact .flip .vflip _ (Or.inr rfl)

end DroidCam.VideoThreads
