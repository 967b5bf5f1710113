import DroidCam.ControlMailbox

/-
  DroidCam/CliControls.lean
  =========================
  The control keys of the command-line client.

  `wait_command` stores a command for every control key, whether or not the last
  one was served.  A store into a mailbox that is not empty loses a request for
  good, either the one it replaces or its own, so the requests sent are the keys
  typed exactly when every store found the mailbox empty.
-/

namespace DroidCam.CliControls

open LabelledRun SlotChannel VideoThreads ControlMailbox

/-! ### `wait_command` -/

/-- What a key stores; the other keys flip the picture, print the help, or do
    nothing. -/
def keyCommand : Char → Option Nat
  | '=' | '+' => some CB_CONTROL_ZOOM_IN
  | '-' => some CB_CONTROL_ZOOM_OUT
  | 'a' | 'A' => some CB_CONTROL_AF
  | 'l' | 'L' => some CB_CONTROL_LED
  | _ => none

inductive CliPc where
  | loop
  | read
  | store (cmd : Nat)
  | returned
deriving DecidableEq, Repr

inductive CliAct where
  | go
  | key (c : Char)
  /-- `read` would block. -/
  | again
  /-- `read` fails or finds the end of the input. -/
  | eof
  /-- `sig_handler`. -/
  | signal
deriving DecidableEq, Repr

structure CliState extends ControlState CliPc where
  -- history: the commands of the control keys read
  typed : List Nat

/-- `main` calls `wait_command` after it has created the video thread. -/
def CliState.init : CliState :=
  ⟨{ ControlState.init .loop with vRunning := 1, vpc := .serverWait }, []⟩

def cliRequest (cmd : Nat) : Request := ⟨cmd, ""⟩

def cliStep (s : CliState) (a : CliAct) : Option CliState :=
  match s.wpc, a with
  -- while (v_running)
  | .loop, .go => some { s with wpc := if s.vRunning ≠ 0 then .read else .returned }
  | .read, .again => some { s with wpc := .loop }
  | .read, .eof => some { s with wpc := .returned }
  | .read, .key c =>
      match keyCommand c with
      | some cmd => some { s with wpc := .store cmd, typed := s.typed ++ [cmd] }
      | none => some { s with wpc := .loop }
  | .store cmd, .go => some { s with toControlState := s.store (cliRequest cmd) .loop }
  | _, .signal => some { s with vRunning := 0 }
  | _, _ => none

inductive Act where
  | video (a : SenderAct)
  | cli (a : CliAct)
deriving DecidableEq, Repr

def next (s : CliState) : Act → Option CliState
  | .video a => (senderStep s.toControlState a).map fun t => { s with toControlState := t }
  | .cli a => cliStep s a

abbrev Step : CliState → Act → CliState → Prop := ofNext next

/-- A session that has served what was typed: the mailbox is empty, and no key is
    between its `read` and its store. -/
def Served (s : CliState) : Prop := s.threadCmd = 0 ∧ ∀ cmd, s.wpc ≠ .store cmd

/-- One request was sent for every key, in the order typed. -/
def AllSent (s : CliState) : Prop := s.sent = s.typed.map fun cmd => (cliRequest cmd).text

/-- A store finds the mailbox empty. -/
def StoresWhenEmpty (s : CliState) : Act → Prop
  | .cli .go => ∀ cmd, s.wpc = .store cmd → s.threadCmd = 0
  | _ => True

theorem storesWhenEmpty_of_no_store {s : CliState} {a : CliAct}
    (h : a = .go → ∀ cmd, s.wpc ≠ .store cmd) : StoresWhenEmpty s (.cli a) := by
  cases a with
  | go => exact fun cmd hcmd => absurd hcmd (h rfl cmd)
  | _ => trivial

/-! ### Keys and stores

A key is read and stored in two steps, and the video thread may run between them; until
the store the command is in hand. -/

/-- The command of a key between its `read` and its store. -/
def CliPc.inHand : CliPc → List Nat
  | .store cmd => [cmd]
  | _ => []

/-- What a key can mean: a code that is neither 0 nor that of white balance. -/
def Plain (cmd : Nat) : Prop := cmd ≠ 0 ∧ cmd ≠ CB_CONTROL_WB

theorem keyCommand_plain {c : Char} {cmd : Nat} (h : keyCommand c = some cmd) : Plain cmd := by
  unfold keyCommand at h
  split at h
  case h_8 => cases h
  all_goals
    cases h
    constructor <;> decide

/-- What the video thread sees is the same. -/
structure Unseen (s t : CliState) : Prop where
  threadCmd : t.threadCmd = s.threadCmd
  threadCmdValStr : t.threadCmdValStr = s.threadCmdValStr
  vpc : t.vpc = s.vpc
  stored : t.stored = s.stored
  sent : t.sent = s.sent

/-- **A step of the client** is a store, or the video thread does not see it; then it
    reads a key or none. -/
theorem cliStep_cases {s t : CliState} {a : CliAct} (h : cliStep s a = some t) :
    (∃ cmd, a = .go ∧ s.wpc = .store cmd ∧
      t = { s with toControlState := s.store (cliRequest cmd) .loop }) ∨
    ((a = .go → ∀ cmd, s.wpc ≠ .store cmd) ∧ Unseen s t ∧
      ∃ keys, t.typed = s.typed ++ keys ∧ t.wpc.inHand = s.wpc.inHand ++ keys ∧
        ∀ cmd ∈ keys, Plain cmd) := by
  have hno : ∀ cmd ∈ ([] : List Nat), Plain cmd := fun cmd hcmd => absurd hcmd List.not_mem_nil
  unfold cliStep at h
  split at h
  case h_1 hpc =>
    right
    cases h
    refine ⟨fun _ cmd hcmd => ?_, ⟨rfl, rfl, rfl, rfl, rfl⟩, [], (List.append_nil _).symm, ?_, hno⟩
    · rw [hpc] at hcmd
      cases hcmd
    · rw [hpc]
      dsimp only
      split <;> rfl
  -- nothing to read yet, and the end of the input
  case h_2 hpc | h_3 hpc =>
    right
    cases h
    refine ⟨(nomatch ·), ⟨rfl, rfl, rfl, rfl, rfl⟩, [], (List.append_nil _).symm, ?_, hno⟩
    rw [hpc]
    rfl
  case h_4 c hpc =>
    right
    split at h
    · rename_i cmd hkey
      cases h
      refine ⟨(nomatch ·), ⟨rfl, rfl, rfl, rfl, rfl⟩, [cmd], rfl, ?_, ?_⟩
      · rw [hpc]
        rfl
      · exact List.forall_mem_singleton.mpr (keyCommand_plain hkey)
    · cases h
      refine ⟨(nomatch ·), ⟨rfl, rfl, rfl, rfl, rfl⟩, [], (List.append_nil _).symm, ?_, hno⟩
      rw [hpc]
      rfl
  case h_5 cmd hpc =>
    left
    cases h
    exact ⟨cmd, rfl, hpc, rfl⟩
  case h_6 =>
    right
    cases h
    exact ⟨(nomatch ·), ⟨rfl, rfl, rfl, rfl, rfl⟩, [], (List.append_nil _).symm,
      (List.append_nil _).symm, hno⟩
  case h_7 => cases h

/-- Every key read is stored, but the one in hand. -/
structure Typed (s : CliState) : Prop where
  stored : s.typed.map cliRequest = s.stored ++ s.wpc.inHand.map cliRequest
  plain : ∀ cmd ∈ s.wpc.inHand, Plain cmd

theorem Typed.init : Typed CliState.init where
  stored := rfl
  plain := fun _ h => absurd h List.not_mem_nil

theorem Typed.step {s t : CliState} {a : Act} (hs : Typed s) (h : Step s a t) : Typed t := by
  cases a with
  | video a =>
      obtain ⟨u, hu, rfl⟩ := Option.map_eq_some_iff.mp h
      obtain ⟨-, -, hwpc, hstored, -⟩ := senderStep_frame hu
      constructor
      · rw [hstored, hwpc]
        exact hs.stored
      · rw [hwpc]
        exact hs.plain
  | cli a =>
      rcases cliStep_cases h with ⟨cmd, rfl, hpc, rfl⟩ | ⟨-, hunseen, keys, htyped, hinHand, hkeys⟩
      -- the only step that writes what the video thread reads
      · have hstored := hs.stored
        rw [hpc] at hstored
        constructor
        · exact hstored.trans (List.append_nil _).symm
        · exact fun _ h => absurd h List.not_mem_nil
      · constructor
        · rw [htyped, hinHand, hunseen.stored, List.map_append, List.map_append, hs.stored,
            List.append_assoc]
        · intro cmd hcmd
          rw [hinHand] at hcmd
          rcases List.mem_append.mp hcmd with hold | hnew
          · exact hs.plain cmd hold
          · exact hkeys cmd hnew

theorem Typed.served {s : CliState} (hs : Typed s) (hserved : Served s) :
    s.typed.map cliRequest = s.stored := by
  have hinHand : s.wpc.inHand = [] := by
    cases hpc : s.wpc with
    | store cmd => exact absurd hpc (hserved.2 cmd)
    | _ => rfl
  rw [hs.stored, hinHand, List.map_nil, List.append_nil]

/-- The command of a store is that of a key. -/
theorem Typed.plain_store {s : CliState} {cmd : Nat} (hs : Typed s) (hpc : s.wpc = .store cmd) :
    Plain cmd := by
  apply hs.plain
  rw [hpc]
  exact List.mem_singleton_self cmd

/-! ### Stores into an empty mailbox

While every store finds the mailbox empty the keyboard thread is a sender of the
channel, and the requests come out as they went in. -/

/-- The client and the video thread simulate the channel `c`. -/
structure Inv (s : CliState) (c : Channel Request) : Prop where
  simulates : Simulates s.toControlState c
  typed : Typed s

theorem Inv.init : Inv CliState.init Channel.empty where
  simulates := ⟨rfl, rfl, Or.inl ⟨rfl, rfl⟩⟩
  typed := Typed.init

/-- **The client step lemma**, for stores that find the mailbox empty. -/
theorem Inv.step {s t : CliState} {c : Channel Request} {a : Act} (hs : Inv s c)
    (hok : StoresWhenEmpty s a) (h : Step s a t) :
    ∃ es d, Run SlotChannel.Step c es d ∧ Inv t d := by
  have htyped : Typed t := hs.typed.step h
  cases a with
  | video a =>
      obtain ⟨u, hu, rfl⟩ := Option.map_eq_some_iff.mp h
      obtain ⟨es, d, hrun, hd⟩ := hs.simulates.senderStep hu
      exact ⟨es, d, hrun, hd, htyped⟩
  | cli a =>
      rcases cliStep_cases h with ⟨cmd, rfl, hpc, rfl⟩ | ⟨-, hunseen, -⟩
      · have hplain := hs.typed.plain_store hpc
        obtain ⟨es, d, hrun, hd⟩ := hs.simulates.store (r := cliRequest cmd) (hok cmd hpc)
          hplain.1 (fun hwb => absurd hwb hplain.2) .loop
        exact ⟨es, d, hrun, hd, htyped⟩
      · have hslot : Held t.threadCmd t.threadCmdValStr c.slot t.vpc := by
          rw [hunseen.threadCmd, hunseen.threadCmdValStr, hunseen.vpc]
          exact hs.simulates.slot
        obtain ⟨es, d, hrun, hd⟩ := hs.simulates.stay hslot hunseen.stored hunseen.sent
        exact ⟨es, d, hrun, hd, htyped⟩

theorem Inv.run {s : CliState} {as : List Act}
    (h : Run (Guarded StoresWhenEmpty Step) CliState.init as s) :
    ∃ es c, Run SlotChannel.Step Channel.empty es c ∧ Inv s c :=
  Run.simulation (fun _ _ _ _ hs hstep => hs.step hstep.1 hstep.2) Inv.init h

/-- Once they are served, the requests sent are the keys typed. -/
theorem Inv.served {s : CliState} {c : Channel Request} (hs : Inv s c) (hc : c.Conserved)
    (hserved : Served s) : AllSent s := by
  have hslot := hs.simulates.slot
  rw [hserved.1] at hslot
  have hstored := hs.typed.served hserved
  calc s.sent = c.delivered.map Request.text := hs.simulates.delivered.symm
    _ = c.accepted.map Request.text := by rw [hc.delivered hslot.empty.1]
    _ = s.stored.map Request.text := by rw [hs.simulates.accepted]
    _ = s.typed.map (fun cmd => (cliRequest cmd).text) := by
        rw [← hstored, List.map_map]
        rfl

/-! ### Requests lost

The converse direction.  Lost requests are counted: no step makes the count smaller, and
a store over a waiting one makes it larger. -/

/-- A command that is stored and not sent. -/
def inFlight {ω : Type} (s : ControlState ω) : Nat :=
  if s.threadCmd ≠ 0 ∧ s.vpc ≠ .reset then 1 else 0

/-- The requests that were stored and will never be sent. -/
def lost (s : CliState) : Nat := s.stored.length - (s.sent.length + inFlight s.toControlState)

/-- What the video thread serves or is about to clear is there, and nothing is sent
    that was not stored. -/
structure Counted {ω : Type} (s : ControlState ω) : Prop where
  present : s.vpc.serving = true ∨ s.vpc = .reset → s.threadCmd ≠ 0
  counted : s.sent.length + inFlight s ≤ s.stored.length

/-- A step of the video thread loses nothing. -/
theorem senderStep_counts {ω : Type} {s t : ControlState ω} {a : SenderAct}
    (hs : s.vpc.serving = true ∨ s.vpc = .reset → s.threadCmd ≠ 0)
    (h : senderStep s a = some t) :
    (t.vpc.serving = true ∨ t.vpc = .reset → t.threadCmd ≠ 0) ∧
      t.sent.length + inFlight t = s.sent.length + inFlight s := by
  have hserved : s.vpc.serving = true → s.threadCmd ≠ 0 := fun hserving => hs (Or.inl hserving)
  cases senderStep_move h with
  | @connect ok hpc | @frame ok hpc =>
      cases ok <;> simp [inFlight, hpc, SenderPc.serving]
  -- the tests of the loop, and the exit, where the thread may turn one way or the other
  | loop hpc =>
      by_cases hrun : s.vRunning = 0 <;> simp [inFlight, hpc, hrun, SenderPc.serving]
  | test hpc =>
      by_cases hcmd : s.threadCmd = 0 <;> simp [inFlight, hpc, hcmd, SenderPc.serving]
  | @earlyOut keepWaiting hpc =>
      by_cases hgo : s.vRunning ≠ 0 ∧ keepWaiting = true
      · simp [inFlight, hpc, hgo, SenderPc.serving]
      · simp [inFlight, hpc, hgo, SenderPc.serving]
  | choose hpc =>
      have hcmd : s.threadCmd ≠ 0 := hserved (by rw [hpc, SenderPc.serving])
      by_cases hwb : s.threadCmd = CB_CONTROL_WB
      · simp [inFlight, hpc, hwb, SenderPc.serving, CB_CONTROL_WB]
      · simp [inFlight, hpc, hcmd, hwb, SenderPc.serving]
  | reset hpc => simp [inFlight, hpc, SenderPc.serving]
  | readCmd hpc | readVal hpc | formatStr hpc | formatInt hpc | send hpc =>
      have hcmd : s.threadCmd ≠ 0 := hserved (by rw [hpc, SenderPc.serving])
      simp [inFlight, hpc, hcmd, SenderPc.serving]

/-- A store takes the place of a command that is there, or of one that is about to be
    cleared: then one request more is lost. -/
theorem Counted.store {ω : Type} {s : ControlState ω} {r : Request} {wpc : ω}
    (hs : Counted s) (hcmd : r.cmd ≠ 0) :
    Counted (s.store r wpc) ∧ inFlight (s.store r wpc) ≤ inFlight s + 1 ∧
      (s.threadCmd ≠ 0 → inFlight (s.store r wpc) = inFlight s) := by
  have hflight : inFlight (s.store r wpc) = if s.vpc ≠ .reset then 1 else 0 := by
    simp [inFlight, ControlState.store, hcmd]
  have hle : inFlight (s.store r wpc) ≤ inFlight s + 1 := by
    rw [hflight]
    split <;> omega
  refine ⟨⟨fun _ => hcmd, ?_⟩, hle, ?_⟩
  · have hcounted := hs.counted
    show s.sent.length + inFlight (s.store r wpc) ≤ (s.stored ++ [r]).length
    rw [List.length_append, List.length_singleton]
    omega
  · intro hfull
    rw [hflight, inFlight]
    simp [hfull]

theorem Counted.init : Counted CliState.init.toControlState where
  present := by
    rintro (h | h) <;> cases h
  counted := le_rfl

/-- **The counting step lemma**: no step takes back a loss, and a store into a mailbox
    that is not empty is one. -/
theorem Counted.step {s t : CliState} {a : Act} (hs : Counted s.toControlState ∧ Typed s)
    (h : Step s a t) :
    Counted t.toControlState ∧ lost s ≤ lost t ∧ (¬ StoresWhenEmpty s a → lost s < lost t) := by
  have hcounted := hs.1.counted
  cases a with
  | video a =>
      obtain ⟨u, hu, rfl⟩ := Option.map_eq_some_iff.mp h
      obtain ⟨-, -, -, hstored, -⟩ := senderStep_frame hu
      obtain ⟨hpresent, hcounts⟩ := senderStep_counts hs.1.present hu
      refine ⟨⟨hpresent, ?_⟩, ?_, fun hbad => absurd trivial hbad⟩
      · rw [hcounts, hstored]
        exact hcounted
      · simp only [lost]
        rw [hcounts, hstored]
  | cli a =>
      rcases cliStep_cases h with ⟨cmd, rfl, hpc, rfl⟩ | ⟨hno, hunseen, -⟩
      · obtain ⟨hnew, hle, hfull⟩ :=
          @Counted.store _ _ (cliRequest cmd) CliPc.loop hs.1 (hs.2.plain_store hpc).1
        have hlength : (s.stored ++ [cliRequest cmd]).length = s.stored.length + 1 :=
          List.length_append
        have hlost : lost { s with toControlState := s.store (cliRequest cmd) .loop } =
            s.stored.length + 1 -
              (s.sent.length + inFlight (s.store (cliRequest cmd) CliPc.loop)) :=
          congrArg (· - _) hlength
        refine ⟨hnew, ?_, fun hbad => ?_⟩
        · rw [hlost, lost]
          omega
        -- the store went over a waiting request, which nobody sends any more
        · have hthere : s.threadCmd ≠ 0 := fun hzero => hbad fun _ _ => hzero
          rw [hlost, hfull hthere, lost]
          omega
      · have hflight : inFlight t.toControlState = inFlight s.toControlState := by
          simp only [inFlight, hunseen.threadCmd, hunseen.vpc]
        have hlost : lost t = lost s := by
          simp only [lost, hflight, hunseen.stored, hunseen.sent]
        refine ⟨⟨?_, ?_⟩, hlost.ge, fun hbad => ?_⟩
        · rw [hunseen.vpc, hunseen.threadCmd]
          exact hs.1.present
        · rw [hflight, hunseen.stored, hunseen.sent]
          exact hcounted
        · exact absurd (storesWhenEmpty_of_no_store hno) hbad

/-- When all is served, a request was lost if not all were sent. -/
theorem Counted.lost_eq_zero {s : CliState} (htyped : Typed s) (hserved : Served s)
    (hall : s.sent.length = s.typed.length) : lost s = 0 := by
  have hlength := congrArg List.length (htyped.served hserved)
  rw [List.length_map] at hlength
  simp only [lost, hall, hlength]
  omega

/-- A run of the video thread alone, which leaves the client where it is. -/
theorem Run.of_sender {s : CliState} {u : ControlState CliPc} {as : List SenderAct}
    (h : Run (ofNext senderStep) s.toControlState as u) :
    Run Step s (as.map Act.video) { s with toControlState := u } ∧ u.wpc = s.wpc := by
  induction h with
  | nil => exact ⟨Run.nil s, rfl⟩
  | @snoc t u as a _ hstep ih =>
      obtain ⟨hrun, hwpc⟩ := ih
      obtain ⟨-, -, hsame, -⟩ := senderStep_frame hstep
      have hnext : Step { s with toControlState := t } (.video a)
          { s with toControlState := u } := by
        have hmap : senderStep t a = some u := hstep
        simp only [Step, ofNext, next, hmap, Option.map_some]
      rw [List.map_append]
      exact ⟨Run.snoc hrun hnext, hsame.trans hwpc⟩

/-- A stream that keeps running comes to serve what was typed. -/
theorem session_serves {s : CliState} (hrunning : s.vRunning ≠ 0)
    (hvpc : s.vpc.streaming = true) (hwpc : ∀ cmd, s.wpc ≠ .store cmd) :
    ∃ as t, Run Step s as t ∧ Served t ∧ t.typed = s.typed := by
  obtain ⟨as, u, hrun, hzero⟩ := streaming_serves hrunning hvpc
  obtain ⟨hcli, hsame⟩ := Run.of_sender hrun
  refine ⟨_, _, hcli, ⟨hzero, fun cmd hcmd => hwpc cmd ?_⟩, rfl⟩
  exact hsame.symm.trans hcmd

/-! ### The keys sent -/

/-- **The control keys of the command line reach the phone**, each exactly once and in
    the order typed, in exactly the sessions in which every store found the mailbox
    empty. -/
theorem cli_keys_sent_iff {s : CliState} {as : List Act} (h : Run Step CliState.init as s)
    (hserved : Served s) :
    AllSent s ↔ Run (Guarded StoresWhenEmpty Step) CliState.init as s := by
  have hinit : Counted CliState.init.toControlState ∧ Typed CliState.init :=
    ⟨Counted.init, Typed.init⟩
  have hstep : ∀ s a t, Counted s.toControlState ∧ Typed s → Step s a t →
      Counted t.toControlState ∧ Typed t := fun s a t hs hstep =>
    ⟨(Counted.step hs hstep).1, hs.2.step hstep⟩
  constructor
  · intro hsent
    have htyped : Typed s := (Run.invariant hstep hinit h).2
    have hlength : s.sent.length = s.typed.length := by rw [hsent, List.length_map]
    have hlost := Counted.lost_eq_zero htyped hserved hlength
    refine Run.guarded_of_lost hstep ?_ ?_ hinit h (le_of_eq_of_le hlost (Nat.zero_le _))
    · intro s a t hs hst
      exact (Counted.step hs hst).2.1
    · intro s a t hs hst
      exact (Counted.step hs hst).2.2
  · intro hguarded
    obtain ⟨es, c, hrun, hs⟩ := Inv.run hguarded
    exact hs.served (Run.conserved hrun) hserved

/-- A key is typed, served, and a frame later another one. -/
def slowKeys : List Act :=
  [.video (.env true), .cli .go, .cli (.key '+'), .cli .go, .video .go, .video .go, .video .go,
    .video .go, .video .go, .video .go, .cli .go, .cli (.key 'l'), .cli .go, .video (.env true),
    .video .go, .video .go, .video .go, .video .go, .video .go, .video .go]

/-- The second key is typed before the video thread has looked at the first. -/
def fastKeys : List Act :=
  [.video (.env true), .cli .go, .cli (.key '+'), .cli .go, .cli .go, .cli (.key '-'), .cli .go,
    .video .go, .video .go, .video .go, .video .go, .video .go, .video .go]

/-- The second key is typed between `Send` and the reset. -/
def keyAtReset : List Act :=
  [.video (.env true), .cli .go, .cli (.key '+'), .cli .go, .video .go, .video .go, .video .go,
    .video .go, .video .go, .cli .go, .cli (.key '-'), .cli .go, .video .go]

theorem cli_keys_sent_iff_slow :
    ∃ s, Run (Guarded StoresWhenEmpty Step) CliState.init slowKeys s ∧
      s.typed = [CB_CONTROL_ZOOM_IN, CB_CONTROL_LED] ∧
      s.sent = ["CMD /v1/ctl?6", "CMD /v1/ctl?9"] := by
  obtain ⟨s, hs, hvalues⟩ := Option.map_eq_some_iff.mp (by decide +kernel :
    (execute next CliState.init slowKeys).map (fun s => (s.typed, s.sent, s.threadCmd, s.wpc)) =
      some ([CB_CONTROL_ZOOM_IN, CB_CONTROL_LED], ["CMD /v1/ctl?6", "CMD /v1/ctl?9"], 0, .loop))
  simp only [Prod.mk.injEq] at hvalues
  obtain ⟨htyped, hsent, hcmd, hwpc⟩ := hvalues
  have hserved : Served s := ⟨hcmd, fun cmd h => by simp [hwpc] at h⟩
  have hall : AllSent s := by
    rw [AllSent, hsent, htyped]
    decide +kernel
  exact ⟨s, (cli_keys_sent_iff (Run.of_execute hs) hserved).mp hall, htyped, hsent⟩

/-- **Keys are lost**, the earlier one when the mailbox is still full and the later one
    when it is about to be cleared. -/
theorem cli_keys_lost :
    (∃ s, Run Step CliState.init fastKeys s ∧ Served s ∧ s.vRunning = 1 ∧ ¬ AllSent s ∧
      s.typed = [CB_CONTROL_ZOOM_IN, CB_CONTROL_ZOOM_OUT] ∧ s.sent = ["CMD /v1/ctl?7"]) ∧
    ∃ s, Run Step CliState.init keyAtReset s ∧ Served s ∧ s.vRunning = 1 ∧ ¬ AllSent s ∧
      s.typed = [CB_CONTROL_ZOOM_IN, CB_CONTROL_ZOOM_OUT] ∧ s.sent = ["CMD /v1/ctl?6"] := by
  have hlost : ∀ (as : List Act) (text : String),
      (execute next CliState.init as).map
        (fun s => (s.typed, s.sent, s.threadCmd, s.vRunning, s.wpc)) =
          some ([CB_CONTROL_ZOOM_IN, CB_CONTROL_ZOOM_OUT], [text], 0, 1, .loop) →
      ∃ s, Run Step CliState.init as s ∧ Served s ∧ s.vRunning = 1 ∧ ¬ AllSent s ∧
        s.typed = [CB_CONTROL_ZOOM_IN, CB_CONTROL_ZOOM_OUT] ∧ s.sent = [text] := by
    intro as text h
    obtain ⟨s, hs, hvalues⟩ := Option.map_eq_some_iff.mp h
    simp only [Prod.mk.injEq] at hvalues
    obtain ⟨htyped, hsent, hcmd, hrunning, hwpc⟩ := hvalues
    refine ⟨s, Run.of_execute hs, ⟨hcmd, fun cmd h => by simp [hwpc] at h⟩, hrunning, ?_,
      htyped, hsent⟩
    rw [AllSent, hsent, htyped]
    simp
  constructor
  · exact hlost fastKeys _ (by decide +kernel)
  · exact hlost keyAtReset _ (by decide +kernel)

end DroidCam.CliControls
