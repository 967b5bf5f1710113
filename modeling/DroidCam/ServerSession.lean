import DroidCam.Connection
import DroidCam.Lib.LabelledRun

/-
  DroidCam/ServerSession.lean
  ===========================
  The sockets of the video thread: `VideoThreadProc` with `accept_connection`,
  `StartInetServer` and `connection_cleanup`.

  A thread is started with the socket of a phone, or with none; without one it listens
  and serves one phone after the other.  `wifiServerSocket` is a global, and the next
  thread finds what the last one has left in it.  A step takes one answer of the
  environment; which frames come over the socket is in `VideoThreads`.
-/

namespace DroidCam.ServerSession

open Connection Descriptors LabelledRun

/-! ### State -/

inductive ServerPc where
  /-- `server_wait`. -/
  | serverWait
  | startServer
  | bind
  | listen
  | getFlags
  /-- `while (v_running && ...)` of `accept_connection`. -/
  | acceptTest
  | accept
  | request
  | header
  | prepare
  | loop
  | recvLength
  | recvFrame
  | earlyOut
  | again
  | cleanup
  | returned
deriving DecidableEq, Repr

structure ServerState where
  pc : ServerPc
  wifiServerSocket : Int
  videoSocket : Int
  keepWaiting : Bool
  table : Table
  -- history: the servers started by this thread
  started : Nat
deriving DecidableEq, Repr

/-- No thread has been started yet. -/
def ServerState.init : ServerState :=
  ⟨.returned, INVALID_SOCKET, INVALID_SOCKET, false, Table.empty, 0⟩

/-- What the environment answers; `start` is a thread that gets the socket of a phone. -/
inductive Answer where
  | go
  | start (phone : Option Nat)
  /-- A flag that is read, or what `decoder_prepare_video` returns. -/
  | flag (b : Bool)
  | socket (r : Reply)
  /-- `bind`, `listen`, `fcntl`, `Send` or `RecvAll`. -/
  | result (n : Int)
  /-- `connection_cleanup` at the end of the program. -/
  | exit
deriving DecidableEq, Repr

/-! ### The functions -/

/-- A new socket is none that is open. -/
def openSocket (t : Table) (r : Reply) : Option Table :=
  match r with
  | .error _ => some t
  | .value fd => if (fd : Int) ∈ t.live then none else some (t.opened fd)

/-- `_error_out` of `StartInetServer`; `accept_connection` then has no socket either. -/
def ServerState.serverFails (s : ServerState) : ServerState :=
  { s with
    table := closeSocket s.table s.wifiServerSocket
    wifiServerSocket := INVALID_SOCKET
    pc := .earlyOut }

/-- `accept` without a socket: try again, or give up. -/
def acceptFails (e : Errno) : ServerPc :=
  if e = EAGAIN ∨ e = EWOULDBLOCK ∨ e = EINTR then .acceptTest else .earlyOut

def ServerState.connectionCleanup (s : ServerState) : ServerState :=
  { s with
    table := if s.wifiServerSocket ≠ INVALID_SOCKET then closeSocket s.table s.wifiServerSocket
             else s.table
    wifiServerSocket := INVALID_SOCKET }

def serverStep (s : ServerState) (a : Answer) : Option ServerState :=
  match s.pc, a with
  | .returned, .start none =>
      some { s with
        pc := .serverWait, videoSocket := INVALID_SOCKET, keepWaiting := false, started := 0 }
  | .returned, .start (some fd) =>
      if (fd : Int) ∈ s.table.live then none
      else some { s with
        pc := .serverWait, videoSocket := fd, keepWaiting := false, started := 0
        table := s.table.opened fd }
  | .returned, .exit => some s.connectionCleanup
  | .serverWait, .go =>
      some { s with pc := if s.videoSocket = INVALID_SOCKET then
                            if s.wifiServerSocket = INVALID_SOCKET then .startServer
                            else .acceptTest
                          else .request }
  -- StartInetServer
  | .startServer, .socket r =>
      (openSocket s.table r).map fun table =>
        { s with
          table, wifiServerSocket := r.ret
          pc := if r.ret = INVALID_SOCKET then .earlyOut else .bind }
  | .bind, .result n => some (if n < 0 then s.serverFails else { s with pc := .listen })
  | .listen, .result n => some (if n < 0 then s.serverFails else { s with pc := .getFlags })
  | .getFlags, .result n =>
      some (if n < 0 then s.serverFails
            else { s with pc := .acceptTest, started := s.started + 1 })
  -- accept_connection
  | .acceptTest, .flag vRunning => some { s with pc := if vRunning then .accept else .earlyOut }
  | .accept, .socket r =>
      (openSocket s.table r).map fun table =>
        match r with
        | .error e => { s with pc := acceptFails e }
        | .value fd => { s with table, videoSocket := fd, keepWaiting := true, pc := .request }
  -- VideoThreadProc
  | .request, .result n => some { s with pc := if n ≤ 0 then .earlyOut else .header }
  | .header, .result n => some { s with pc := if n ≤ 0 then .earlyOut else .prepare }
  | .prepare, .flag ok => some { s with pc := if ok then .loop else .earlyOut }
  | .loop, .flag vRunning => some { s with pc := if vRunning then .recvLength else .earlyOut }
  | .recvLength, .result n => some { s with pc := if n ≤ 0 then .earlyOut else .recvFrame }
  | .recvFrame, .result n => some { s with pc := if n ≤ 0 then .earlyOut else .loop }
  | .earlyOut, .go => some { s with table := closeSocket s.table s.videoSocket, pc := .again }
  | .again, .flag vRunning =>
      some (if vRunning ∧ s.keepWaiting then
              { s with videoSocket := INVALID_SOCKET, pc := .serverWait }
            else { s with pc := .cleanup })
  | .cleanup, .go => some { s.connectionCleanup with pc := .returned }
  | _, _ => none

abbrev Step : ServerState → Answer → ServerState → Prop := ofNext serverStep

/-! ### What one step does

Many statements only look at a socket or use it.  They are one move, since no descriptor
changes hands there. -/

/-- The stretches of the thread, by the sockets it has. -/
inductive Stage where
  | idle
  | waiting
  | starting
  | binding
  | accepting
  | serving
  | closed
deriving DecidableEq, Repr

def ServerPc.stage : ServerPc → Stage
  | .returned => .idle
  | .serverWait => .waiting
  | .startServer => .starting
  | .bind | .listen | .getFlags => .binding
  | .acceptTest | .accept => .accepting
  | .request | .header | .prepare | .loop | .recvLength | .recvFrame | .earlyOut => .serving
  | .again | .cleanup => .closed

inductive ServerMove (s : ServerState) : Answer → ServerState → Prop where
  | listens (hpc : s.pc.stage = .idle) :
      ServerMove s (.start none) { s with
        pc := .serverWait, videoSocket := INVALID_SOCKET, keepWaiting := false, started := 0 }
  | connects {fd : Nat} (hpc : s.pc.stage = .idle) :
      ServerMove s (.start (some fd)) { s with
        pc := .serverWait, videoSocket := fd, keepWaiting := false, started := 0
        table := s.table.opened fd }
  | exit (hpc : s.pc.stage = .idle) : ServerMove s .exit s.connectionCleanup
  | toServer (hpc : s.pc.stage = .waiting) (hvideo : s.videoSocket = INVALID_SOCKET)
      (hwifi : s.wifiServerSocket = INVALID_SOCKET) : ServerMove s .go { s with pc := .startServer }
  | toAccept (hpc : s.pc.stage = .waiting) (hvideo : s.videoSocket = INVALID_SOCKET)
      (hwifi : s.wifiServerSocket ≠ INVALID_SOCKET) : ServerMove s .go { s with pc := .acceptTest }
  | toRequest (hpc : s.pc.stage = .waiting) : ServerMove s .go { s with pc := .request }
  | noServer {e : Errno} (hpc : s.pc.stage = .starting) :
      ServerMove s (.socket (.error e)) { s with wifiServerSocket := -1, pc := .earlyOut }
  | server {fd : Nat} (hpc : s.pc.stage = .starting) :
      ServerMove s (.socket (.value fd))
        { s with table := s.table.opened fd, wifiServerSocket := fd, pc := .bind }
  | serverFails {n : Int} (hpc : s.pc.stage = .binding) : ServerMove s (.result n) s.serverFails
  | serves {n : Int} (hpc : s.pc.stage = .binding) :
      ServerMove s (.result n) { s with pc := .acceptTest, started := s.started + 1 }
  | givesUp {a : Answer} (hpc : s.pc.stage = .accepting) : ServerMove s a { s with pc := .earlyOut }
  | accepted {fd : Nat} (hpc : s.pc.stage = .accepting) :
      ServerMove s (.socket (.value fd)) { s with
        table := s.table.opened fd, videoSocket := fd, keepWaiting := true, pc := .request }
  | disconnected (hpc : s.pc.stage = .serving) :
      ServerMove s .go { s with table := closeSocket s.table s.videoSocket, pc := .again }
  | again (hpc : s.pc.stage = .closed) :
      ServerMove s (.flag true) { s with videoSocket := INVALID_SOCKET, pc := .serverWait }
  | finish (hpc : s.pc.stage = .closed) :
      ServerMove s .go { s.connectionCleanup with pc := .returned }
  /-- Nothing happens to a socket. -/
  | goes {a : Answer} {pc : ServerPc} (hpc : pc.stage = s.pc.stage) : ServerMove s a { s with pc }

theorem openSocket_eq {t t' : Table} {r : Reply} (h : openSocket t r = some t') :
    (∃ e, r = .error e ∧ t' = t) ∨ ∃ fd : Nat, r = .value fd ∧ t' = t.opened fd := by
  cases r with
  | error e => exact Or.inl ⟨e, rfl, (Option.some.inj h).symm⟩
  | value fd =>
      simp only [openSocket] at h
      split at h
      · cases h
      · exact Or.inr ⟨fd, rfl, (Option.some.inj h).symm⟩

theorem serverStep_move {s t : ServerState} {a : Answer} (h : serverStep s a = some t) :
    ServerMove s a t := by
  unfold serverStep at h
  split at h
  case h_1 hpc => cases h; exact .listens (hpc ▸ rfl)
  case h_2 fd hpc =>
    split at h
    · cases h
    · cases h
      exact .connects (hpc ▸ rfl)
  case h_3 hpc => cases h; exact .exit (hpc ▸ rfl)
  case h_4 hpc =>
    cases h
    split_ifs with hvideo hwifi
    · exact .toServer (hpc ▸ rfl) hvideo hwifi
    · exact .toAccept (hpc ▸ rfl) hvideo hwifi
    · exact .toRequest (hpc ▸ rfl)
  case h_5 r hpc =>
    obtain ⟨table, htable, rfl⟩ := Option.map_eq_some_iff.mp h
    rcases openSocket_eq htable with ⟨e, rfl, rfl⟩ | ⟨fd, rfl, rfl⟩
    · exact .noServer (hpc ▸ rfl)
    · simp only [Reply.ret_value]
      exact .server (hpc ▸ rfl)
  case h_6 n hpc | h_7 n hpc =>
    cases h
    split
    · exact .serverFails (hpc ▸ rfl)
    · exact .goes (hpc ▸ rfl)
  case h_8 n hpc =>
    cases h
    split
    · exact .serverFails (hpc ▸ rfl)
    · exact .serves (hpc ▸ rfl)
  case h_9 vRunning hpc =>
    cases h
    cases vRunning
    · exact .givesUp (hpc ▸ rfl)
    · exact .goes (hpc ▸ rfl)
  case h_10 r hpc =>
    obtain ⟨table, htable, rfl⟩ := Option.map_eq_some_iff.mp h
    rcases openSocket_eq htable with ⟨e, rfl, rfl⟩ | ⟨fd, rfl, rfl⟩
    · simp only [acceptFails]
      split
      · exact .goes (hpc ▸ rfl)
      · exact .givesUp (hpc ▸ rfl)
    · exact .accepted (hpc ▸ rfl)
  case h_17 hpc => cases h; exact .disconnected (hpc ▸ rfl)
  case h_18 vRunning hpc =>
    cases h
    split
    · rename_i hagain
      obtain ⟨rfl, -⟩ := hagain
      exact .again (hpc ▸ rfl)
    · exact .goes (hpc ▸ rfl)
  case h_19 hpc => cases h; exact .finish (hpc ▸ rfl)
  case h_20 => cases h
  all_goals
    rename_i hpc
    cases h
    refine .goes ?_
    rw [hpc]
    split <;> rfl

/-! ### The sockets of the thread

Two variables hold all that is open, and which of them does depends on the stretch: a
phone is only taken while no other is there, a server only started while there is none. -/

/-- The socket of a phone, until `disconnect`. -/
def ServerState.phone (s : ServerState) : List Int :=
  match s.pc.stage with
  | .idle | .closed => []
  | _ => socketList s.videoSocket

structure Inv (s : ServerState) : Prop where
  holds : s.table.Holds (s.phone ++ socketList s.wifiServerSocket)
  wifi : SocketVar s.wifiServerSocket
  video : SocketVar s.videoSocket
  alone : s.pc.stage = .starting ∨ s.pc.stage = .binding ∨ s.pc.stage = .accepting →
    s.videoSocket = INVALID_SOCKET
  noServer : s.pc.stage = .idle ∨ s.pc.stage = .starting → s.wifiServerSocket = INVALID_SOCKET
  server : s.pc.stage = .binding ∨ s.pc.stage = .accepting → s.wifiServerSocket ≠ INVALID_SOCKET
  started : s.started ≤ 1
  notStarted : s.pc.stage ≠ .idle → s.wifiServerSocket = INVALID_SOCKET ∨ s.pc.stage = .binding →
    s.started = 0

/-- `close` and `INVALID_SOCKET` in one go. -/
theorem connectionCleanup_holds {s : ServerState} {held : List Int}
    (hwifi : SocketVar s.wifiServerSocket)
    (h : s.table.Holds (socketList s.wifiServerSocket ++ held)) :
    s.connectionCleanup.table.Holds held := by
  rw [ServerState.connectionCleanup]
  split
  · exact closeSocket_holds hwifi h
  · rename_i hnone
    rw [not_not.mp hnone] at h
    exact h

theorem Inv.init : Inv ServerState.init where
  holds := Table.Holds.empty
  wifi := Or.inl rfl
  video := Or.inl rfl
  alone := fun _ => rfl
  noServer := fun _ => rfl
  server := nofun
  started := Nat.zero_le 1
  notStarted := fun hidle => absurd rfl hidle

/-- **One step** opens, closes and remembers the sockets that it should. -/
theorem Inv.step {s t : ServerState} {a : Answer} (hs : Inv s) (h : Step s a t) : Inv t := by
  have hholds := hs.holds
  cases serverStep_move h with
  | listens hpc =>
      have hwifi := hs.noServer (Or.inl hpc)
      simp only [ServerState.phone, hpc, hwifi] at hholds
      refine ⟨?_, hs.wifi, Or.inl rfl, nofun, nofun, nofun, Nat.zero_le 1, fun _ _ => rfl⟩
      simp only [ServerState.phone, ServerPc.stage, hwifi]
      exact hholds
  | @connects fd hpc =>
      have hwifi := hs.noServer (Or.inl hpc)
      simp only [ServerState.phone, hpc, hwifi] at hholds
      refine ⟨?_, hs.wifi, natCast_socketVar fd, nofun, nofun, nofun, Nat.zero_le 1,
        fun _ _ => rfl⟩
      simp only [ServerState.phone, ServerPc.stage, socketList_natCast, hwifi]
      exact hholds.opened fd
  | exit hpc =>
      have hwifi := hs.noServer (Or.inl hpc)
      have hstage : s.connectionCleanup.pc.stage = .idle := hpc
      simp only [ServerState.phone, hpc, hwifi] at hholds
      refine ⟨?_, Or.inl rfl, hs.video, ?_, fun _ => rfl, ?_, hs.started,
        fun hne => absurd hpc hne⟩
      · simp only [ServerState.phone, hstage]
        refine connectionCleanup_holds hs.wifi ?_
        rw [hwifi]
        exact hholds
      · simp only [hstage]
        nofun
      · simp only [hstage]
        nofun
  | toServer hpc hvideo hwifi =>
      have hnot := hs.notStarted (by simp [hpc]) (Or.inl hwifi)
      simp only [ServerState.phone, hpc] at hholds
      exact ⟨hholds, hs.wifi, hs.video, fun _ => hvideo, fun _ => hwifi, nofun, hs.started,
        fun _ _ => hnot⟩
  | toAccept hpc hvideo hwifi =>
      simp only [ServerState.phone, hpc] at hholds
      exact ⟨hholds, hs.wifi, hs.video, fun _ => hvideo, nofun, fun _ => hwifi, hs.started,
        fun _ h => absurd h (by simp [hwifi, ServerPc.stage])⟩
  | toRequest hpc =>
      simp only [ServerState.phone, hpc] at hholds
      exact ⟨hholds, hs.wifi, hs.video, nofun, nofun, nofun, hs.started,
        fun _ h => hs.notStarted (by simp [hpc]) (h.imp_right nofun)⟩
  | noServer hpc =>
      have hwifi := hs.noServer (Or.inr hpc)
      have hnot := hs.notStarted (by simp [hpc]) (Or.inl hwifi)
      simp only [ServerState.phone, hpc, hwifi] at hholds
      exact ⟨hholds, Or.inl rfl, hs.video, nofun, nofun, nofun, hs.started, fun _ _ => hnot⟩
  | @server fd hpc =>
      have hwifi := hs.noServer (Or.inr hpc)
      have hnot := hs.notStarted (by simp [hpc]) (Or.inl hwifi)
      have hvideo := hs.alone (Or.inl hpc)
      simp only [ServerState.phone, hpc, hwifi, hvideo] at hholds
      refine ⟨?_, natCast_socketVar fd, hs.video, fun _ => hvideo, nofun,
        fun _ => natCast_ne_invalid fd, hs.started, fun _ _ => hnot⟩
      simp only [ServerState.phone, ServerPc.stage, hvideo, socketList_natCast]
      exact hholds.opened fd
  | serverFails hpc =>
      -- a server that has failed to bind was not counted
      have hnot := hs.notStarted (by simp [hpc]) (Or.inr hpc)
      have hvideo := hs.alone (Or.inr (Or.inl hpc))
      simp only [ServerState.phone, hpc, hvideo] at hholds
      refine ⟨?_, Or.inl rfl, hs.video, nofun, nofun, nofun, hs.started, fun _ _ => hnot⟩
      simp only [ServerState.phone, ServerState.serverFails, ServerPc.stage, hvideo]
      exact closeSocket_holds hs.wifi (hholds.perm List.perm_append_comm)
  | serves hpc =>
      have hnot := hs.notStarted (by simp [hpc]) (Or.inr hpc)
      have hvideo := hs.alone (Or.inr (Or.inl hpc))
      have hwifi := hs.server (Or.inl hpc)
      simp only [ServerState.phone, hpc] at hholds
      refine ⟨hholds, hs.wifi, hs.video, fun _ => hvideo, nofun, fun _ => hwifi, ?_, ?_⟩
      · rw [hnot]
      · exact fun _ h => absurd h (by simp [hwifi, ServerPc.stage])
  | givesUp hpc =>
      simp only [ServerState.phone, hpc] at hholds
      exact ⟨hholds, hs.wifi, hs.video, nofun, nofun, nofun, hs.started,
        fun _ h => hs.notStarted (by simp [hpc]) (h.imp_right nofun)⟩
  | @accepted fd hpc =>
      have hvideo := hs.alone (Or.inr (Or.inr hpc))
      simp only [ServerState.phone, hpc, hvideo] at hholds
      refine ⟨?_, hs.wifi, natCast_socketVar fd, nofun, nofun, nofun, hs.started,
        -- the phone of `thread arg` or one that was accepted, closed in the same place
        fun _ h => hs.notStarted (by simp [hpc]) (h.imp_right nofun)⟩
      simp only [ServerState.phone, ServerPc.stage, socketList_natCast]
      exact hholds.opened fd
  | disconnected hpc =>
      simp only [ServerState.phone, hpc] at hholds
      exact ⟨closeSocket_holds hs.video hholds, hs.wifi, hs.video, nofun, nofun, nofun, hs.started,
        fun _ h => hs.notStarted (by simp [hpc]) (h.imp_right nofun)⟩
  | again hpc =>
      -- `connection_cleanup` closes the listening socket; the phone went before
      simp only [ServerState.phone, hpc] at hholds
      exact ⟨hholds, hs.wifi, Or.inl rfl, fun _ => rfl, nofun, nofun, hs.started,
        fun _ h => hs.notStarted (by simp [hpc]) (h.imp_right nofun)⟩
  | finish hpc =>
      simp only [ServerState.phone, hpc] at hholds
      refine ⟨?_, Or.inl rfl, hs.video, nofun, fun _ => rfl, nofun, hs.started,
        fun hne => absurd rfl hne⟩
      have hserver : s.table.Holds (socketList s.wifiServerSocket ++ []) := by
        rw [List.append_nil]
        exact hholds
      exact connectionCleanup_holds hs.wifi hserver
  | goes hpc =>
      simp only [ServerState.phone, ← hpc] at hholds
      refine ⟨hholds, hs.wifi, hs.video, ?_, ?_, ?_, hs.started, ?_⟩
      · exact fun h => hs.alone (hpc ▸ h)
      · exact fun h => hs.noServer (hpc ▸ h)
      · exact fun h => hs.server (hpc ▸ h)
      · exact fun hidle h => hs.notStarted (hpc ▸ hidle) (h.imp_right (hpc ▸ ·))

theorem Inv.run {as : List Answer} {s : ServerState} (h : Run Step ServerState.init as s) :
    Inv s := Run.invariant (fun _ _ _ hs h => hs.step h) Inv.init h

/-! ### Whole runs -/

/-- **The sockets of the video thread.**  Over any number of threads and phones, what is open
is the socket of the phone and the listening socket, nothing else is ever closed, a thread
starts at most one server, and a thread that has returned leaves nothing open. -/
theorem server_sockets {as : List Answer} {s : ServerState}
    (h : Run Step ServerState.init as s) :
    s.table.Holds (s.phone ++ socketList s.wifiServerSocket) ∧ s.started ≤ 1 ∧
      (s.pc = .returned → s.wifiServerSocket = INVALID_SOCKET ∧ s.table.AllClosed) := by
  have hinv := Inv.run h
  refine ⟨hinv.holds, hinv.started, fun hpc => ?_⟩
  have hidle : s.pc.stage = .idle := hpc ▸ rfl
  have hwifi := hinv.noServer (Or.inl hidle)
  have hholds := hinv.holds
  simp only [ServerState.phone, hidle, hwifi] at hholds
  exact ⟨hwifi, hholds.allClosed⟩

/-- A thread without a phone, whose first `accept` is interrupted. -/
def twoPhones : List Answer :=
  [.start none, .go, .socket (.value 3), .result 0, .result 0, .result 2,
    .flag true, .socket (.error EINTR), .flag true, .socket (.value 4), .result 1, .result (-1),
    .go, .flag true, .go, .flag true, .socket (.value 4), .result 1, .result 9, .flag true,
    .flag false]

/-- The second phone is about to be disconnected. -/
theorem server_sockets_twoPhones : ∃ s, Run Step ServerState.init twoPhones s ∧
    s.table.Holds [4, 3] ∧ s.started ≤ 1 := by
  obtain ⟨s, hs, hstate⟩ := Option.map_eq_some_iff.mp
    (by decide +kernel : (execute serverStep ServerState.init twoPhones).map
      (fun s => (s.phone, s.wifiServerSocket)) = some ([4], 3))
  have hsockets := server_sockets (Run.of_execute hs)
  rw [Prod.mk.injEq] at hstate
  rw [hstate.1, hstate.2] at hsockets
  exact ⟨s, Run.of_execute hs, hsockets.1, hsockets.2.1⟩

end DroidCam.ServerSession
