import DroidCam.Loopback.Streaming

/-
  DroidCam/Loopback/Delivery.lean
  ===============================
  Read/write I/O delivers frames like a broadcast log.

  A `Ledger` records, from the calls, their replies and the cursors they leave, the
  frames written since the device was free and what every open handle has been
  given.  With the cursors of the readers it is a `Broadcast.Board`, and the driver
  with its ledger refines the steps of the board.
-/

namespace DroidCam.Loopback

open CArith ByteMemory LabelledRun

/-! ### The record of a run

Beside the driver runs a ledger of what each write gave and each read got; the driver
does not look at it. -/

structure Ledger where
  frames : List (List UInt8)
  receipts : Nat → List (Broadcast.Receipt Delivery)

def Ledger.empty : Ledger := ⟨[], fun _ => []⟩

/-- The stream position of a delivery is the one before the cursor it leaves. -/
def receiptOf (s t : Driver) (file count : Nat) (bytes : List UInt8) :
    List (Broadcast.Receipt Delivery) :=
  match t.openers.lookup file with
  | some o => [⟨(o.readPosition - 1).toNat, s.dev.writePosition.toNat, ⟨count, bytes⟩⟩]
  | none => []

def Ledger.record (l : Ledger) (s t : Driver) : Call → Reply → Ledger
  | .openDevice file _ _, _ => { l with receipts := Function.update l.receipts file [] }
  | .closeDevice file, _ =>
    { frames := if t.dev.openCount = 0 then [] else l.frames
      receipts := Function.update l.receipts file [] }
  | .request _ (.write buf _ _), .transferred n => { l with frames := l.frames ++ [buf.take n] }
  | .request file (.read count _ _), .data bytes =>
    { l with receipts :=
        Function.update l.receipts file (l.receipts file ++ receiptOf s t file count bytes) }
  | _, _ => l

/-- A step of the driver, and its record. -/
def recordedNext (cfg : Config) (x : Driver × Ledger) (call : Call) : Option (Driver × Ledger) :=
  match driverStep cfg x.1 call with
  | .ok (reply, t) => some (t, x.2.record x.1 t call reply)
  | .error _ => none

abbrev RecordedStep (cfg : Config) : Driver × Ledger → Call → Driver × Ledger → Prop :=
  ofNext (recordedNext cfg)

/-- Read/write I/O: opens and closes, writes below `2^31` frames, and captures that
    block and are not interrupted. -/
def ReadWrite (x : Driver × Ledger) : Call → Prop
  | .openDevice _ mem _ => mem.vmalloc.isSome = true
  | .closeDevice _ => True
  | .request _ (.write _ _ _) => x.2.frames.length + 1 < 2147483648
  | .request _ (.read _ w _) => w = ⟨false, false⟩
  | _ => False

/-- `ReadWrite`, computed. -/
def readWrite (x : Driver × Ledger) : Call → Bool
  | .openDevice _ mem _ => mem.vmalloc.isSome
  | .closeDevice _ => true
  | .request _ (.write _ _ _) => decide (x.2.frames.length + 1 < 2147483648)
  | .request _ (.read _ w _) => decide (w = ⟨false, false⟩)
  | _ => false

theorem readWrite_iff {x : Driver × Ledger} {call : Call} :
    readWrite x call = true ↔ ReadWrite x call := by
  unfold readWrite ReadWrite
  split <;> simp

instance (x : Driver × Ledger) (call : Call) : Decidable (ReadWrite x call) :=
  decidable_of_iff _ readWrite_iff

theorem RecordedStep.cases {cfg : Config} {x y : Driver × Ledger} {call : Call}
    (h : RecordedStep cfg x call y) :
    ∃ reply, driverStep cfg x.1 call = .ok (reply, y.1) ∧ y.2 = x.2.record x.1 y.1 call reply := by
  simp only [ofNext, recordedNext] at h
  split at h
  · rename_i reply t hstep
    cases h
    exact ⟨reply, hstep, rfl⟩
  · cases h

theorem RecordedStep.driver {cfg : Config} {x y : Driver × Ledger} {call : Call}
    (h : RecordedStep cfg x call y) : Step cfg x.1 call y.1 := by
  obtain ⟨reply, hstep, -⟩ := h.cases
  simp only [ofNext, next, hstep]

/-! ### The driver as a broadcast log -/

def board (x : Driver × Ledger) : Broadcast.Board Nat (List UInt8) Delivery where
  log := x.2.frames
  subscribers := fun file =>
    (x.1.openers.lookup file).map fun o => ⟨o.readPosition.toNat, x.2.receipts file⟩

/-- What holds along a run of read/write I/O. -/
structure Delivering (cfg : Config) (x : Driver × Ledger) : Prop where
  accounted : Accounted x.1
  ring : RingInv x.1.dev
  streaming : Streaming cfg x.1.dev x.2.frames
  within : ∀ file o, x.1.openers.lookup file = some o → o.Within x.2.frames.length

theorem Delivering.init (cfg : Config) : Delivering cfg (Driver.init cfg, .empty) where
  accounted := Accounted.init cfg
  ring := RingInv.init cfg
  streaming := Streaming.init cfg
  within := fun file o hfile => by cases hfile

theorem Opener.Within.mono {o : Opener} {m n : Nat} (h : o.Within m) (hle : m ≤ n) : o.Within n where
  nonneg := h.nonneg
  le := by
    have := h.le
    omega
  rereadCount := h.rereadCount

theorem Opener.Within.moved {o : Opener} {n : Nat} (ho : o.Within n) (hnew : o.readPosition < n) :
    (o.moved n).Within n := by
  have hbounds := ho.next_bounds hnew
  refine ⟨?_, ?_, rfl⟩
  · simp only [Opener.moved]
    omega
  · simp only [Opener.moved]
    omega

theorem Opener.Within.opened (io : Bool) (n : Nat) : Opener.Within { timeoutImageIo := io } n where
  nonneg := Int.le_refl 0
  le := Int.natCast_nonneg n
  rereadCount := rfl

/-- The board after a handle and its receipts changed. -/
theorem board_insert (s : Driver) (l : Ledger) (frames : List (List UInt8)) (file : Nat) (d : Device)
    (o : Opener) (rs : List (Broadcast.Receipt Delivery)) :
    board (s.afterRequest file d o, ⟨frames, Function.update l.receipts file rs⟩) =
      Broadcast.Board.set ⟨frames, (board (s, l)).subscribers⟩ file
        (some ⟨o.readPosition.toNat, rs⟩) := by
  have hsubscribers : ∀ f,
      (board (s.afterRequest file d o, ⟨frames, Function.update l.receipts file rs⟩)).subscribers f =
        Function.update (board (s, l)).subscribers file (some ⟨o.readPosition.toNat, rs⟩) f := by
    intro f
    by_cases hf : f = file
    · subst hf
      simp [board, Driver.afterRequest]
    · simp [board, Driver.afterRequest, hf, AList.lookup_insert_ne hf]
  exact congrArg (Broadcast.Board.mk frames) (funext hsubscribers)

/-- A handle that does not change leaves the subscribers as they are. -/
theorem board_insert_self {s : Driver} {l : Ledger} {file : Nat} {o : Opener}
    (hfile : s.openers.lookup file = some o) (frames : List (List UInt8)) (d : Device) :
    board (s.afterRequest file d o, ⟨frames, l.receipts⟩) = ⟨frames, (board (s, l)).subscribers⟩ := by
  have hsubscribers : ∀ f, (board (s.afterRequest file d o, ⟨frames, l.receipts⟩)).subscribers f =
      (board (s, l)).subscribers f := by
    intro f
    by_cases hf : f = file
    · subst hf
      simp [board, Driver.afterRequest, hfile]
    · simp [board, Driver.afterRequest, AList.lookup_insert_ne hf]
  exact congrArg (Broadcast.Board.mk frames) (funext hsubscribers)

/-- The board after a handle is gone. -/
theorem board_erase (s : Driver) (l : Ledger) (frames : List (List UInt8)) (file : Nat) (d : Device) :
    board (⟨d, s.openers.erase file⟩, ⟨frames, Function.update l.receipts file []⟩) =
      Broadcast.Board.set ⟨frames, (board (s, l)).subscribers⟩ file none := by
  have hsubscribers : ∀ f,
      (board (⟨d, s.openers.erase file⟩,
        ⟨frames, Function.update l.receipts file []⟩)).subscribers f =
        Function.update (board (s, l)).subscribers file none f := by
    intro f
    by_cases hf : f = file
    · subst hf
      simp [board]
    · simp [board, hf, AList.lookup_erase_ne hf]
  exact congrArg (Broadcast.Board.mk frames) (funext hsubscribers)

/-! ### Steps

Each call is no event, one event or two of the log: the close of the last handle also
clears it. -/

variable {cfg : Config} {s t : Driver} {l : Ledger} {file : Nat}

/-- A step that keeps the device streaming, and is a run of the board. -/
structure Matched (cfg : Config) (x y : Driver × Ledger) : Prop where
  streaming : Streaming cfg y.1.dev y.2.frames
  within : ∀ file o, y.1.openers.lookup file = some o → o.Within y.2.frames.length
  run : ∃ es, Run (Broadcast.Step (Delivery.Exact cfg)) (board x) es (board y)

theorem within_insert {n : Nat} {d : Device} {o : Opener} (ho : o.Within n)
    (h : ∀ f o', s.openers.lookup f = some o' → o'.Within n) {f : Nat} {o' : Opener}
    (hf : (s.afterRequest file d o).openers.lookup f = some o') : o'.Within n := by
  by_cases hff : f = file
  · subst hff
    simp only [Driver.afterRequest, AList.lookup_insert, Option.some.injEq] at hf
    exact hf ▸ ho
  · rw [Driver.afterRequest, AList.lookup_insert_ne hff] at hf
    exact h f o' hf

theorem Delivering.open {mem : Allocation} {kzalloc : Bool} (hx : Delivering cfg (s, l))
    (hmem : mem.vmalloc.isSome = true) (h : Step cfg s (.openDevice file mem kzalloc) t) :
    Matched cfg (s, l) (t, { l with receipts := Function.update l.receipts file [] }) := by
  cases h.move with
  | openFailed hfree hopen =>
      cases v4l2LoopbackOpen_move hopen with
      | refused =>
          refine ⟨hx.streaming, hx.within, [], ?_⟩
          have hsame : ∀ f,
              (board (s, { l with receipts := Function.update l.receipts file [] })).subscribers f =
                (board (s, l)).subscribers f := by
            intro f
            by_cases hf : f = file
            · subst hf
              simp [board, hfree]
            · simp [board, hf]
          exact Run.nil_iff.mpr (congrArg (Broadcast.Board.mk l.frames) (funext hsame)).symm
      | leaked _ hio => exact absurd (hx.streaming.quiet.timeoutImageIo.symm.trans hio) (by simp)
  | opened hfree hopen =>
      cases v4l2LoopbackOpen_move hopen with
      | opened =>
          refine ⟨hx.streaming.open hx.accounted hx.ring.toRingValid hmem,
            fun f o hf => within_insert (.opened _ _) hx.within hf, [.subscribe file], ?_⟩
          rw [board_insert]
          exact Run.single (.subscribe _ file (by simp [board, hfree]))

/-- The last close leaves no handle. -/
theorem Accounted.erase_last {o : Opener} (hs : Accounted s) (hfile : s.openers.lookup file = some o)
    (hlast : s.dev.openCount = 1) (f : Nat) : (s.openers.erase file).lookup f = none := by
  have hlen := keys_length_erase hfile
  have hcounted := hs.counted
  cases hf : (s.openers.erase file).lookup f with
  | none => rfl
  | some o' =>
      have := keys_length_pos hf
      omega

theorem Delivering.close (hx : Delivering cfg (s, l)) (h : Step cfg s (.closeDevice file) t) :
    Matched cfg (s, l) (t, {
      frames := if t.dev.openCount = 0 then [] else l.frames
      receipts := Function.update l.receipts file [] }) := by
  cases h.move with
  | closed hfile =>
      have hcount := v4l2LoopbackClose_openCount s.dev
      have hstreaming := hx.streaming.close
      -- with the last handle the frames go; the others keep their place
      by_cases hlast : s.dev.openCount = 1
      · have hnone := hx.accounted.erase_last hfile hlast
        have hzero : (v4l2LoopbackClose s.dev).openCount = 0 := by omega
        simp only [hzero, if_true]
        rw [if_pos hlast] at hstreaming
        refine ⟨hstreaming, fun f o hf => absurd ((hnone f).symm.trans hf) (by simp),
          [.unsubscribe file, .clear], ?_⟩
        have hclear : board (⟨v4l2LoopbackClose s.dev, s.openers.erase file⟩,
            ⟨[], Function.update l.receipts file []⟩) = ((board (s, l)).set file none).clear :=
          board_erase s l [] file _
        have hempty : ∀ f, ((board (s, l)).set file none).subscribers f = none := by
          intro f
          have hsub := congrArg (fun b => Broadcast.Board.subscribers b f) hclear
          exact hsub.symm.trans (by simp [board, hnone f])
        rw [hclear]
        exact Run.snoc (Run.single (Broadcast.Step.unsubscribe _ file))
          (Broadcast.Step.clear _ hempty)
      · have hne : (v4l2LoopbackClose s.dev).openCount ≠ 0 := by omega
        simp only [if_neg hne]
        rw [if_neg hlast] at hstreaming
        refine ⟨hstreaming, fun f o hf => ?_, [.unsubscribe file], ?_⟩
        · by_cases hff : f = file
          · subst hff
            rw [AList.lookup_erase] at hf
            cases hf
          · rw [AList.lookup_erase_ne hff] at hf
            exact hx.within f o hf
        · rw [board_erase]
          exact Run.single (.unsubscribe _ file)

theorem Delivering.write {buf : List UInt8} {mem : Allocation} {fault : Option Nat} {reply : Reply}
    (hx : Delivering cfg (s, l)) (hfew : l.frames.length + 1 < 2147483648)
    (h : driverStep cfg s (.request file (.write buf mem fault)) = .ok (reply, t)) :
    Matched cfg (s, l) (t, l.record s t (.request file (.write buf mem fault)) reply) := by
  obtain ⟨o, d, o', hfile, hreq, rfl⟩ := driverStep_request h
  obtain ⟨⟨reply', d'⟩, hwrite, hreq⟩ := map_eq_ok.mp hreq
  cases hreq
  have ho := hx.within file o hfile
  rcases hx.streaming.write (hx.accounted.held hfile).1 hfew hwrite with
    ⟨rfl, hstreaming⟩ | ⟨rfl, hstreaming⟩
  · have htake : buf.take (buf.take cfg.slotSize).length = buf.take cfg.slotSize := by
      rw [List.length_take, ← List.take_eq_take_min]
    simp only [Ledger.record, htake]
    have hlen : l.frames.length ≤ (l.frames ++ [buf.take cfg.slotSize]).length := by simp
    refine ⟨hstreaming, fun f o'' hf => within_insert (ho.mono hlen)
      (fun f o'' hf => (hx.within f o'' hf).mono hlen) hf, [.publish (buf.take cfg.slotSize)], ?_⟩
    rw [board_insert_self hfile]
    exact Run.single (.publish _ _)
  · refine ⟨hstreaming, fun f o'' hf => within_insert ho hx.within hf, [], ?_⟩
    exact Run.nil_iff.mpr (board_insert_self hfile l.frames d).symm

/-- The receipt of a read that moved the cursor. -/
theorem receiptOf_moved {n : Nat} (hposition : s.dev.writePosition = n) (d : Device) (o : Opener)
    (count : Nat) (bytes : List UInt8) :
    receiptOf s (s.afterRequest file d (o.moved n)) file count bytes =
      [⟨Broadcast.nextPosition n o.readPosition.toNat, n, ⟨count, bytes⟩⟩] := by
  simp [receiptOf, Driver.afterRequest, Opener.moved, hposition]

theorem Delivering.read {count : Nat} {fault : Bool} {reply : Reply} (hx : Delivering cfg (s, l))
    (h : driverStep cfg s (.request file (.read count ⟨false, false⟩ fault)) = .ok (reply, t)) :
    Matched cfg (s, l)
      (t, l.record s t (.request file (.read count ⟨false, false⟩ fault)) reply) := by
  obtain ⟨o, d, o', hfile, hreq, rfl⟩ := driverStep_request h
  have ho := hx.within file o hfile
  have hnonneg := ho.nonneg
  have hstreaming : Streaming cfg s.dev l.frames := hx.streaming
  obtain ⟨reply', o'', hread, hmove⟩ := hstreaming.read (hx.accounted.held hfile).1 ho fault count
  rw [request, hread] at hreq
  cases hreq
  have hsubscriber : (board (s, l)).subscribers file =
      some ⟨o.readPosition.toNat, l.receipts file⟩ := by simp [board, hfile]
  have hcursor : (o.moved l.frames.length).readPosition.toNat =
      Broadcast.nextPosition l.frames.length o.readPosition.toNat + 1 := by
    simp only [Opener.moved]
    omega
  cases hmove with
  -- the read sleeps, and the log does not move
  | asleep hempty =>
      refine ⟨hx.streaming, fun f o' hf => within_insert ho hx.within hf, [], ?_⟩
      exact Run.nil_iff.mpr (board_insert_self hfile l.frames s.dev).symm
  -- the copy to the reader faults, and the frame has passed it by
  | lost hnew =>
      refine ⟨hx.streaming, fun f o' hf => within_insert (ho.moved hnew) hx.within hf,
        [.lose file], ?_⟩
      have hinsert := board_insert s l l.frames file s.dev (o.moved l.frames.length)
        (l.receipts file)
      rw [Function.update_eq_self, hcursor] at hinsert
      have hbehind : o.readPosition.toNat < l.frames.length := by omega
      exact hinsert ▸ Run.single (Broadcast.Step.lose (board (s, l)) file _ hsubscriber hbehind)
  | taken bytes frame hnew hframe hexact =>
      refine ⟨hx.streaming, fun f o' hf => within_insert (ho.moved hnew) hx.within hf,
        [.take file ⟨count, bytes⟩], ?_⟩
      have hinsert := board_insert s l l.frames file s.dev (o.moved l.frames.length)
        (l.receipts file ++ [⟨Broadcast.nextPosition l.frames.length o.readPosition.toNat,
          l.frames.length, ⟨count, bytes⟩⟩])
      rw [hcursor] at hinsert
      simp only [Ledger.record, receiptOf_moved hstreaming.position]
      have hbehind : o.readPosition.toNat < l.frames.length := by omega
      exact hinsert ▸ Run.single
        (Broadcast.Step.take (board (s, l)) file _ _ frame hsubscriber hbehind hframe hexact)

/-- **One call of read/write I/O** keeps the device streaming and is a run of the
    board. -/
theorem Delivering.step {x y : Driver × Ledger} {call : Call} (hx : Delivering cfg x)
    (h : Guarded ReadWrite (RecordedStep cfg) x call y) :
    Delivering cfg y ∧ ∃ es, Run (Broadcast.Step (Delivery.Exact cfg)) (board x) es (board y) := by
  obtain ⟨hok, hstep⟩ := h
  have hdriver := hstep.driver
  obtain ⟨reply, hreply, hrecord⟩ := hstep.cases
  obtain ⟨s, l⟩ := x
  obtain ⟨t, l'⟩ := y
  simp only at hdriver hreply hrecord
  have hmatched : Matched cfg (s, l) (t, l') := by
    subst hrecord
    cases call with
    | openDevice file mem kzalloc => exact hx.open hok hdriver
    | closeDevice file => exact hx.close hdriver
    | request file req =>
        cases req with
        | write buf mem fault => exact hx.write hok hreply
        | read count w fault =>
            obtain rfl : w = ⟨false, false⟩ := hok
            exact hx.read hreply
        | _ => exact absurd hok id
    | _ => exact absurd hok id
  exact ⟨⟨hx.accounted.step hdriver, hx.ring.step hdriver, hmatched.streaming, hmatched.within⟩,
    hmatched.run⟩

/-- No call of read/write I/O does something undefined. -/
theorem Delivering.no_fault {x : Driver × Ledger} {call : Call} (hx : Delivering cfg x)
    (hok : ReadWrite x call) (f : Fault) : driverStep cfg x.1 call ≠ .error (.fault f) := by
  intro h
  cases call with
  | openDevice file mem kzalloc =>
      simp only [driverStep] at h
      split at h <;> cases h
  | closeDevice file =>
      simp only [driverStep] at h
      split at h <;> cases h
  | request file req =>
      simp only [driverStep] at h
      split at h
      · cases h
      · rename_i o hfile
        have hready := (hx.accounted.held hfile).1
        cases req with
        | write buf mem fault =>
            obtain ⟨r, hwrite⟩ := hx.streaming.write_ok hx.ring.toRingValid hready mem fault buf
            rw [request, hwrite] at h
            cases h
        | read count w fault =>
            obtain rfl : w = ⟨false, false⟩ := hok
            obtain ⟨reply, o', hread, -⟩ :=
              hx.streaming.read hready (hx.within file o hfile) fault count
            rw [request, hread] at h
            cases h
        | _ => exact hok
  | _ => exact hok

/-- Runs of read/write I/O refine the runs of the board. -/
theorem Delivering.run {x : Driver × Ledger} {calls : List Call}
    (h : Run (Guarded ReadWrite (RecordedStep cfg)) (Driver.init cfg, .empty) calls x) :
    Delivering cfg x ∧ (board x).Sound (Delivery.Exact cfg) := by
  have hstep : ∀ x call y b, (Delivering cfg x ∧ board x = b) →
      Guarded ReadWrite (RecordedStep cfg) x call y →
      ∃ es b', Run (Broadcast.Step (Delivery.Exact cfg)) b es b' ∧
        (Delivering cfg y ∧ board y = b') := by
    rintro x call y b ⟨hx, rfl⟩ hxy
    obtain ⟨hy, es, hes⟩ := hx.step hxy
    exact ⟨es, board y, hes, hy, rfl⟩
  obtain ⟨es, b, hes, hx, rfl⟩ := Run.simulation hstep ⟨Delivering.init cfg, rfl⟩ h
  exact ⟨hx, Broadcast.Board.Sound.run (fun file c hc => by cases hc) hes⟩

/-- **Frames are delivered in order, at most once, and intact.**  Every reader is
    within the stream; the positions it was given increase; each was one of the last
    two when it was given; its bytes are those of the write there; and no further
    call does something undefined. -/
theorem frames_delivered {x : Driver × Ledger} {calls : List Call}
    (h : Run (Guarded ReadWrite (RecordedStep cfg)) (Driver.init cfg, .empty) calls x) :
    x.1.dev.writePosition = x.2.frames.length ∧
      (∀ file o, x.1.openers.lookup file = some o →
        o.readPosition ≤ x.1.dev.writePosition ∧
        (x.2.receipts file).Pairwise (fun r r' => r.position < r'.position) ∧
        ∀ r ∈ x.2.receipts file, r.position < r.seen ∧ r.seen ≤ r.position + 2 ∧
          ∃ frame, x.2.frames[r.position]? = some frame ∧ r.payload.Exact cfg frame) ∧
      ∀ call f, ReadWrite x call → driverStep cfg x.1 call ≠ .error (.fault f) := by
  obtain ⟨hx, hsound⟩ := Delivering.run h
  refine ⟨hx.streaming.position, fun file o hfile => ?_, fun call f hok => hx.no_fault hok f⟩
  have hsubscriber : (board x).subscribers file =
      some ⟨o.readPosition.toNat, x.2.receipts file⟩ := by simp [board, hfile]
  have hs := hsound file _ hsubscriber
  refine ⟨?_, hs.increasing, fun r hr => ?_⟩
  · rw [hx.streaming.position]
    exact (hx.within file o hfile).le
  · have hreceipt := hs.receipts r hr
    exact ⟨hreceipt.written, hreceipt.recent, hreceipt.payload⟩

/-- A late reader skips ahead and then follows. -/
theorem frames_delivered_skipping :
    ∃ x, Run (Guarded ReadWrite (RecordedStep ⟨640, 480, 100⟩)) (Driver.init ⟨640, 480, 100⟩, .empty)
        [.openDevice 1 granting true, .openDevice 2 granting true,
          .request 1 (.write [10] granting none), .request 1 (.write [11] granting none),
          .request 1 (.write [12] granting none), .request 2 (.read 1 ⟨false, false⟩ false),
          .request 1 (.write [13] granting none), .request 2 (.read 1 ⟨false, false⟩ false)] x ∧
      x.2.receipts 2 = [⟨2, 3, ⟨1, [12]⟩⟩, ⟨3, 4, ⟨1, [13]⟩⟩] ∧
      ∀ o, x.1.openers.lookup 2 = some o → o.readPosition ≤ x.1.dev.writePosition := by
  obtain ⟨x, hx, hvalues⟩ := Option.map_eq_some_iff.mp (by decide +kernel :
    (execute (guard ReadWrite (recordedNext ⟨640, 480, 100⟩)) (Driver.init ⟨640, 480, 100⟩, .empty)
      [.openDevice 1 granting true, .openDevice 2 granting true,
        .request 1 (.write [10] granting none), .request 1 (.write [11] granting none),
        .request 1 (.write [12] granting none), .request 2 (.read 1 ⟨false, false⟩ false),
        .request 1 (.write [13] granting none), .request 2 (.read 1 ⟨false, false⟩ false)]).map
      (fun x => x.2.receipts 2) = some [⟨2, 3, ⟨1, [12]⟩⟩, ⟨3, 4, ⟨1, [13]⟩⟩])
  have hrun := Run.of_execute_guard hx
  exact ⟨x, hrun, hvalues, fun o ho => ((frames_delivered hrun).2.1 2 o ho).1⟩

end DroidCam.Loopback
