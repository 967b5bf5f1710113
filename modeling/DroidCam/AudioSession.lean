import DroidCam.Connection
import DroidCam.Lib.LabelledRun

/-
  DroidCam/AudioSession.lean
  ==========================
  `AudioThreadProc` from its first line to its last: the sockets it opens, what it
  sends to the phone, and `a_active`.

  One variable holds the UDP socket of the tries and then the TCP socket.  A step
  takes one answer of the environment: a flag that is read, a packet or silence, the
  result of a call.  What the stream loop does with the audio is in `AudioStream`,
  `AudioPlayback` and `SpeexFrames`.
-/

namespace DroidCam.AudioSession

open Connection Descriptors LabelledRun

/-! ### State -/

def TCP_STREAM : Nat := 1

def UDP_STREAM : Nat := 2

def CHUNKS_PER_PACKET : UInt8 := 2

def AUDIO_REQ : String := "CMD /v2/audio"

def STOP_REQ : String := "CMD /v1/stop"

/-- `-@v02`. -/
def HEADER : List UInt8 := [45, 64, 118, 48, 50]

/-- Where the thread stands; `udpPoll tries i` is inside both loops. -/
inductive AudioPc where
  | prepareAudio
  | waitVideo
  | waitActive
  | waitRunning
  | chooseIos
  | chooseAdb
  | createUdp
  | udpTry (tries : Nat)
  | udpPoll (tries i : Nat)
  | tcpOnly
  | sendRequest
  | recvHeader
  | stream
  | streamTest
  | streamRecv
  | transferCheck
  | transferCommit
  | earlyOut
  | returned
deriving DecidableEq, Repr

structure AudioState where
  pc : AudioPc
  mode : Nat
  socket : Int
  keepAliveCounter : Nat
  aActive : Int
  table : Table
  -- history: what went through `SendUDPMessage`, now and at the turn to TCP
  udpSent : List String
  atSwitch : Option (List String)
deriving DecidableEq

/-- The thread starts with `a_active` cleared. -/
def AudioState.init : AudioState := ⟨.prepareAudio, 0, 0, 0, 0, Table.empty, [], none⟩

/-- What the phone was sent over UDP before the thread returned or turned to TCP. -/
def AudioState.udpMessages (s : AudioState) : List String := s.atSwitch.getD s.udpSent

def AudioState.sendUdpMessage (s : AudioState) (message : String) : AudioState :=
  { s with udpSent := s.udpSent ++ [message] }

/-! ### `AudioThreadProc` -/

/-- What the environment answers. -/
inductive Answer where
  | go
  /-- A flag or a setting that is read, or whether there is an audio device. -/
  | flag (b : Bool)
  | socket (r : Reply)
  /-- `RecvNonBlockUDP` in the tries. -/
  | poll (len : Int)
  | connection (p : Peer)
  | header (len : Int) (buf : List UInt8)
  /-- `Send`, a read of the stream, `snd_transfer_check` or `snd_transfer_commit`. -/
  | result (n : Int)

/-- `socket = CreateUdpSocket()`. -/
def AudioState.createUdpSocket (s : AudioState) (r : Reply) : AudioState :=
  { s with
    socket := r.ret
    table := match r with | .value fd => s.table.opened fd | .error _ => s.table
    pc := if r.ret ≤ 0 then .tcpOnly else .udpTry 0 }

/-- One packet, or none within 32 ms; the tries end with the twelfth silence. -/
def AudioState.udpPoll (s : AudioState) (tries i : Nat) (len : Int) : AudioState :=
  if len < 0 then { s with pc := .tcpOnly }
  else if len > 0 then { s with mode := UDP_STREAM, pc := .stream }
  else { s with pc := if i + 1 < 12 then .udpPoll tries (i + 1) else .udpTry (tries + 1) }

/-- Every 1024 turns of a UDP stream the phone is asked again. -/
def AudioState.keepAlive (s : AudioState) : AudioState :=
  if s.mode = UDP_STREAM then
    if s.keepAliveCounter + 1 > 1024 then
      { s with keepAliveCounter := 0 }.sendUdpMessage AUDIO_REQ
    else { s with keepAliveCounter := s.keepAliveCounter + 1 }
  else s

def AudioState.earlyOut (s : AudioState) : AudioState :=
  let s := { s with aActive := 0 }
  let s := if s.mode = UDP_STREAM then s.sendUdpMessage STOP_REQ else s
  { s with
    table := if s.socket > 0 then s.table.close s.socket else s.table
    pc := .returned }

/-- `mode = TCP_STREAM; socket = GetConnection()`, which leaves `r`. -/
def AudioState.tcpOnly (s : AudioState) (r : Int × Table) : AudioState :=
  { s with
    mode := TCP_STREAM
    atSwitch := some s.udpSent
    socket := r.1
    table := r.2
    pc := if r.1 = INVALID_SOCKET then .returned else .sendRequest }

variable (strerror : Errno → String)

def audioStep (s : AudioState) (a : Answer) : Option AudioState :=
  match s.pc, a with
  | .prepareAudio, .flag handle =>
      some { s with pc := if handle then .waitVideo else .returned }
  -- while (v_running)
  | .waitVideo, .flag vRunning =>
      some { s with pc := if vRunning then .waitActive else .chooseIos }
  | .waitActive, .flag vActive =>
      some { s with pc := if vActive then .chooseIos else .waitRunning }
  | .waitRunning, .flag aRunning =>
      some { s with pc := if aRunning then .waitVideo else .returned }
  | .chooseIos, .flag ios => some { s with pc := if ios then .tcpOnly else .chooseAdb }
  | .chooseAdb, .flag adb => some { s with pc := if adb then .tcpOnly else .createUdp }
  | .createUdp, .socket r => if r.ret ∈ s.table.live then none else some (s.createUdpSocket r)
  | .udpTry tries, .go =>
      if tries < 3 then some { s.sendUdpMessage AUDIO_REQ with pc := .udpPoll tries 0 }
      else some { s with pc := .tcpOnly }
  | .udpPoll tries i, .poll len => some (s.udpPoll tries i len)
  | .tcpOnly, .connection p =>
      if p.Fresh s.table then some (s.tcpOnly (getConnection strerror p s.table)) else none
  | .sendRequest, .result n => some { s with pc := if n ≤ 0 then .earlyOut else .recvHeader }
  | .recvHeader, .header len buf =>
      some { s with pc := if len ≤ 0 then .earlyOut
                          else if buf.take 5 ≠ HEADER then .earlyOut
                          else if buf.getD 5 0 ≠ CHUNKS_PER_PACKET then .earlyOut
                          else .stream }
  | .stream, .go => some { s with aActive := 1, pc := .streamTest }
  -- while (a_running)
  | .streamTest, .flag aRunning =>
      some { s with pc := if aRunning then .streamRecv else .earlyOut }
  | .streamRecv, .result len =>
      some { s with pc := if len < 0 then .earlyOut else .transferCheck }
  | .transferCheck, .result err =>
      some { s with pc := if err < 0 then .earlyOut
                          else if err = 0 then .streamTest
                          else .transferCommit }
  | .transferCommit, .result err =>
      if err < 0 then some { s with pc := .earlyOut }
      else some { s.keepAlive with pc := .streamTest }
  | .earlyOut, .go => some s.earlyOut
  | _, _ => none

/-! ### What one step does

The thread can have four things in its hands: nothing, the UDP socket with no answer yet,
the TCP attempt, and the socket it streams on.  The moves keep to these. -/

/-- The stretches of the function, by what the thread has in its hands. -/
inductive Stage where
  | idle
  | probing
  | turning
  | holding
  | returned
deriving DecidableEq, Repr

def AudioPc.stage : AudioPc → Stage
  | .prepareAudio | .waitVideo | .waitActive | .waitRunning | .chooseIos | .chooseAdb
  | .createUdp => .idle
  | .udpTry _ | .udpPoll _ _ => .probing
  | .tcpOnly => .turning
  | .sendRequest | .recvHeader | .stream | .streamTest | .streamRecv | .transferCheck
  | .transferCommit | .earlyOut => .holding
  | .returned => .returned

/-- The answers that bring neither a socket nor the first packet. -/
def Answer.Plain : Answer → Prop
  | .go | .flag _ | .header _ _ | .result _ => True
  | _ => False

inductive AudioMove (s : AudioState) : Answer → AudioState → Prop where
  | wait {b : Bool} {pc : AudioPc} (hpc : s.pc.stage = .idle) (hnext : pc.stage = .idle) :
      AudioMove s (.flag b) { s with pc }
  | leave {b : Bool} (hpc : s.pc.stage = .idle) : AudioMove s (.flag b) { s with pc := .returned }
  | toTcp {b : Bool} (hpc : s.pc.stage = .idle) : AudioMove s (.flag b) { s with pc := .tcpOnly }
  | noUdp {e : Errno} (hpc : s.pc.stage = .idle) :
      AudioMove s (.socket (.error e)) { s with socket := -1, pc := .tcpOnly }
  | zeroUdp (hpc : s.pc.stage = .idle) :
      AudioMove s (.socket (.value 0))
        { s with socket := 0, table := s.table.opened 0, pc := .tcpOnly }
  | udp {fd : Nat} (hpc : s.pc.stage = .idle) (hpos : 0 < fd) :
      AudioMove s (.socket (.value fd))
        { s with socket := fd, table := s.table.opened fd, pc := .udpTry 0 }
  | request {tries : Nat} (hpc : s.pc.stage = .probing) :
      AudioMove s .go { s.sendUdpMessage AUDIO_REQ with pc := .udpPoll tries 0 }
  | exhausted (hpc : s.pc.stage = .probing) : AudioMove s .go { s with pc := .tcpOnly }
  | silence {pc : AudioPc} (hpc : s.pc.stage = .probing) (hnext : pc.stage = .probing) :
      AudioMove s (.poll 0) { s with pc }
  | pollFails {len : Int} (hpc : s.pc.stage = .probing) (hlen : len < 0) :
      AudioMove s (.poll len) { s with pc := .tcpOnly }
  | answered {len : Int} (hpc : s.pc.stage = .probing) (hlen : 0 < len) :
      AudioMove s (.poll len) { s with mode := UDP_STREAM, pc := .stream }
  | tcp {p : Peer} (hpc : s.pc.stage = .turning) (hfresh : p.Fresh s.table) :
      AudioMove s (.connection p) (s.tcpOnly (getConnection strerror p s.table))
  | stream {a : Answer} {pc : AudioPc} {aActive : Int} (hpc : s.pc.stage = .holding)
      (hnext : pc.stage = .holding) (hplain : a.Plain) : AudioMove s a { s with pc, aActive }
  | keepAlive {err : Int} (hpc : s.pc.stage = .holding) :
      AudioMove s (.result err) { s.keepAlive with pc := .streamTest }
  | finish (hpc : s.pc.stage = .holding) : AudioMove s .go s.earlyOut

theorem createUdpSocket_move {s : AudioState} (r : Reply) (hpc : s.pc.stage = .idle) :
    AudioMove strerror s (.socket r) (s.createUdpSocket r) := by
  cases r with
  | error e => exact .noUdp hpc
  | value fd =>
      rcases Nat.eq_zero_or_pos fd with rfl | hpos
      · exact .zeroUdp hpc
      · have hret : ¬ (Reply.value fd).ret ≤ 0 := Int.not_le.mpr (Int.natCast_pos.mpr hpos)
        rw [AudioState.createUdpSocket, if_neg hret]
        exact .udp hpc hpos

theorem udpPoll_move {s : AudioState} {tries i : Nat} (len : Int)
    (hpc : s.pc.stage = .probing) :
    AudioMove strerror s (.poll len) (s.udpPoll tries i len) := by
  rw [AudioState.udpPoll]
  rcases Int.lt_trichotomy len 0 with hneg | rfl | hpos
  · rw [if_pos hneg]
    exact .pollFails hpc hneg
  · rw [if_neg (Int.lt_irrefl 0), if_neg (Int.lt_irrefl 0)]
    refine .silence hpc ?_
    split <;> rfl
  · rw [if_neg (Int.not_lt.mpr (Int.le_of_lt hpos)), if_pos hpos]
    exact .answered hpc hpos

theorem audioStep_move {s t : AudioState} {a : Answer} (h : audioStep strerror s a = some t) :
    AudioMove strerror s a t := by
  unfold audioStep at h
  split at h
  case h_1 handle hpc =>
    cases h
    cases handle
    · exact .leave (hpc ▸ rfl)
    · exact .wait (hpc ▸ rfl) rfl
  case h_2 vRunning hpc =>
    cases h
    cases vRunning <;> exact .wait (hpc ▸ rfl) rfl
  case h_3 vActive hpc =>
    cases h
    cases vActive <;> exact .wait (hpc ▸ rfl) rfl
  case h_4 aRunning hpc =>
    cases h
    cases aRunning
    · exact .leave (hpc ▸ rfl)
    · exact .wait (hpc ▸ rfl) rfl
  case h_5 ios hpc =>
    cases h
    cases ios
    · exact .wait (hpc ▸ rfl) rfl
    · exact .toTcp (hpc ▸ rfl)
  case h_6 adb hpc =>
    cases h
    cases adb
    · exact .wait (hpc ▸ rfl) rfl
    · exact .toTcp (hpc ▸ rfl)
  case h_7 r hpc =>
    split at h
    · cases h
    · cases h
      exact createUdpSocket_move strerror r (hpc ▸ rfl)
  case h_8 tries hpc =>
    split at h
    · cases h
      exact .request (hpc ▸ rfl)
    · cases h
      exact .exhausted (hpc ▸ rfl)
  case h_9 tries i len hpc =>
    cases h
    exact udpPoll_move strerror len (hpc ▸ rfl)
  case h_10 p hpc =>
    split at h
    · rename_i hfresh
      cases h
      exact .tcp (hpc ▸ rfl) hfresh
    · cases h
  case h_11 n hpc =>
    cases h
    refine .stream (hpc ▸ rfl) ?_ trivial
    split <;> rfl
  case h_12 len buf hpc =>
    cases h
    refine .stream (hpc ▸ rfl) ?_ trivial
    split_ifs <;> rfl
  case h_13 hpc =>
    cases h
    exact .stream (hpc ▸ rfl) rfl trivial
  case h_14 aRunning hpc =>
    cases h
    cases aRunning <;> exact .stream (hpc ▸ rfl) rfl trivial
  case h_15 len hpc =>
    cases h
    refine .stream (hpc ▸ rfl) ?_ trivial
    split <;> rfl
  case h_16 err hpc =>
    cases h
    refine .stream (hpc ▸ rfl) ?_ trivial
    split_ifs <;> rfl
  case h_17 err hpc =>
    split at h
    · cases h
      exact .stream (hpc ▸ rfl) rfl trivial
    · cases h
      exact .keepAlive (hpc ▸ rfl)
  case h_18 hpc =>
    cases h
    exact .finish (hpc ▸ rfl)
  case h_19 => cases h

/-! ### What a session leaves behind

A socket stays open in two ways.  A UDP socket nobody answers on is overwritten at
`TCP_ONLY`, and a descriptor 0 is taken for a failed call. -/

/-- Every socket has been closed once, `a_active` is 0, and a phone that was asked for
    audio over UDP has been told to stop. -/
structure Released (s : AudioState) : Prop where
  sockets : s.table.AllClosed
  inactive : s.aActive = 0
  stopped : AUDIO_REQ ∈ s.udpMessages → STOP_REQ ∈ s.udpMessages

/-- A UDP socket brings a packet, and no socket is descriptor 0. -/
structure Smooth (as : List Answer) : Prop where
  answered : ∀ n, .socket (.value n) ∈ as → ∃ len, 0 < len ∧ .poll len ∈ as
  nonzero : ∀ p, .connection p ∈ as → ¬ p.LeavesZero

/-- No connection has been asked for, and no packet has come. -/
structure Unanswered (as : List Answer) : Prop where
  noPacket : ∀ len, 0 < len → .poll len ∉ as
  noConnection : ∀ p, .connection p ∉ as

/-- Neither has a UDP socket. -/
structure Unopened (as : List Answer) : Prop extends Unanswered as where
  noSocket : ∀ n, .socket (.value n) ∉ as

theorem Unopened.smooth {as : List Answer} (h : Unopened as) : Smooth as where
  answered n hn := absurd hn (h.noSocket n)
  nonzero p hp := absurd hp (h.noConnection p)

/-! ### What the thread holds after the answers `as` -/

structure IdleAt (as : List Answer) (s : AudioState) : Prop where
  table : s.table = Table.empty
  inactive : s.aActive = 0
  sent : s.udpSent = []
  noSwitch : s.atSwitch = none
  answers : Unopened as

/-- A UDP socket, and no packet on it yet. -/
structure ProbingAt (as : List Answer) (s : AudioState) : Prop where
  positive : 0 < s.socket
  table : s.table = Table.empty.opened s.socket
  inactive : s.aActive = 0
  noSwitch : s.atSwitch = none
  socket : ∃ fd, s.socket = Int.ofNat fd ∧ .socket (.value fd) ∈ as
  answers : Unanswered as

/-- At `TCP_ONLY`, with or without a UDP socket that stays open. -/
inductive TurningAt (as : List Answer) (s : AudioState) : Prop where
  | clean (h : IdleAt as s)
  | left {fd : Nat} (htable : (fd : Int) ∈ s.table.live) (hactive : s.aActive = 0)
      (hfd : .socket (.value fd) ∈ as) (has : Unanswered as)

inductive HoldingAt (as : List Answer) (s : AudioState) : Prop where
  | udp (hmode : s.mode = UDP_STREAM) (hpos : 0 < s.socket)
      (htable : s.table = Table.empty.opened s.socket) (hswitch : s.atSwitch = none)
      (has : Smooth as)
  | tcp (hmode : s.mode = TCP_STREAM) (hpos : 0 < s.socket)
      (htable : s.table = Table.empty.opened s.socket) (hswitch : s.atSwitch = some [])
      (has : Smooth as)
  /-- A descriptor that `early_out` will not close. -/
  | lost {fd : Int} (htable : fd ∈ s.table.live)
      (hfd : 0 < s.socket → fd ≠ s.socket) (has : ¬ Smooth as)

def InvAt (as : List Answer) (s : AudioState) : Stage → Prop
  | .idle => IdleAt as s
  | .probing => ProbingAt as s
  | .turning => TurningAt as s
  | .holding => HoldingAt as s
  | .returned => Released s ↔ Smooth as

def Inv (as : List Answer) (s : AudioState) : Prop := InvAt as s s.pc.stage

theorem inv_iff {as : List Answer} {s : AudioState} (stage : Stage) (h : s.pc.stage = stage) :
    Inv as s ↔ InvAt as s stage := by
  rw [Inv, h]

theorem Inv.init : Inv [] AudioState.init where
  table := rfl
  inactive := rfl
  sent := rfl
  noSwitch := rfl
  answers :=
    { noPacket := fun _ _ => List.not_mem_nil
      noConnection := fun _ => List.not_mem_nil
      noSocket := fun _ => List.not_mem_nil }

/-! ### One more answer

Only three kinds of answers count for what the session leaves: the descriptor of the UDP
socket, the length of a packet that answers over UDP, and the phone the TCP attempt
meets. -/

variable {as : List Answer} {s : AudioState} {a : Answer}

theorem mem_snoc_plain {x : Answer} (ha : a.Plain) (hx : ¬ x.Plain) :
    x ∈ as ++ [a] ↔ x ∈ as := by
  have hne : x ≠ a := fun h => hx (h ▸ ha)
  simp [hne]

theorem Unanswered.plain (h : Unanswered as) (ha : a.Plain) : Unanswered (as ++ [a]) where
  noPacket len hlen hmem := h.noPacket len hlen ((mem_snoc_plain ha id).mp hmem)
  noConnection p hmem := h.noConnection p ((mem_snoc_plain ha id).mp hmem)

theorem Unopened.plain (h : Unopened as) (ha : a.Plain) : Unopened (as ++ [a]) where
  toUnanswered := h.toUnanswered.plain ha
  noSocket n hmem := h.noSocket n ((mem_snoc_plain ha id).mp hmem)

theorem smooth_plain (ha : a.Plain) : Smooth (as ++ [a]) ↔ Smooth as := by
  have hsocket : ∀ r, .socket r ∈ as ++ [a] ↔ .socket r ∈ as := fun _ => mem_snoc_plain ha id
  have hpoll : ∀ len, .poll len ∈ as ++ [a] ↔ .poll len ∈ as := fun _ => mem_snoc_plain ha id
  have hconnection : ∀ p, .connection p ∈ as ++ [a] ↔ .connection p ∈ as :=
    fun _ => mem_snoc_plain ha id
  constructor
  · intro h
    refine ⟨fun n hn => ?_, fun p hp => h.nonzero p ((hconnection p).mpr hp)⟩
    obtain ⟨len, hpos, hlen⟩ := h.answered n ((hsocket _).mpr hn)
    exact ⟨len, hpos, (hpoll len).mp hlen⟩
  · intro h
    refine ⟨fun n hn => ?_, fun p hp => h.nonzero p ((hconnection p).mp hp)⟩
    obtain ⟨len, hpos, hlen⟩ := h.answered n ((hsocket _).mp hn)
    exact ⟨len, hpos, (hpoll len).mpr hlen⟩

/-- Silence and failures are no packets. -/
theorem Unanswered.poll (h : Unanswered as) {len : Int} (hlen : len ≤ 0) :
    Unanswered (as ++ [.poll len]) where
  noPacket n hpos hmem := by
    rcases List.mem_append.mp hmem with hold | hnew
    · exact h.noPacket n hpos hold
    · cases List.mem_singleton.mp hnew
      exact absurd hpos (Int.not_lt.mpr hlen)
  noConnection p hmem := by
    rcases List.mem_append.mp hmem with hold | hnew
    · exact h.noConnection p hold
    · cases List.mem_singleton.mp hnew

theorem Unanswered.socket (h : Unanswered as) (r : Reply) :
    Unanswered (as ++ [.socket r]) where
  noPacket n hpos hmem := by
    rcases List.mem_append.mp hmem with hold | hnew
    · exact h.noPacket n hpos hold
    · cases List.mem_singleton.mp hnew
  noConnection p hmem := by
    rcases List.mem_append.mp hmem with hold | hnew
    · exact h.noConnection p hold
    · cases List.mem_singleton.mp hnew

theorem Unopened.error (h : Unopened as) (e : Errno) : Unopened (as ++ [.socket (.error e)]) where
  toUnanswered := h.toUnanswered.socket _
  noSocket n hmem := by
    rcases List.mem_append.mp hmem with hold | hnew
    · exact h.noSocket n hold
    · cases List.mem_singleton.mp hnew

/-- A packet, and no connection has been asked for. -/
theorem Unanswered.packet (h : Unanswered as) {len : Int} (hlen : 0 < len) :
    Smooth (as ++ [.poll len]) where
  answered _ _ := ⟨len, hlen, by simp⟩
  nonzero p hmem := by
    rcases List.mem_append.mp hmem with hold | hnew
    · exact absurd hold (h.noConnection p)
    · cases List.mem_singleton.mp hnew

/-- The turn to TCP. -/
theorem Unopened.smooth_connection (h : Unopened as) (p : Peer) :
    Smooth (as ++ [.connection p]) ↔ ¬ p.LeavesZero := by
  constructor
  · intro hsmooth
    exact hsmooth.nonzero p (by simp)
  · intro hzero
    refine ⟨fun n hn => ?_, fun q hq => ?_⟩
    · rcases List.mem_append.mp hn with hold | hnew
      · exact absurd hold (h.noSocket n)
      · cases List.mem_singleton.mp hnew
    · rcases List.mem_append.mp hq with hold | hnew
      · exact absurd hold (h.noConnection q)
      · cases List.mem_singleton.mp hnew
        exact hzero

theorem Unanswered.not_smooth_connection (h : Unanswered as) {fd : Nat}
    (hfd : .socket (.value fd) ∈ as) (p : Peer) : ¬ Smooth (as ++ [.connection p]) := by
  intro hsmooth
  obtain ⟨len, hpos, hlen⟩ := hsmooth.answered fd (List.mem_append_left _ hfd)
  rcases List.mem_append.mp hlen with hold | hnew
  · exact h.noPacket len hpos hold
  · cases List.mem_singleton.mp hnew

/-! ### One step -/

/-- A session that ends with nothing open and nothing said. -/
theorem released_of_quiet (htable : s.table = Table.empty) (hactive : s.aActive = 0)
    (hsent : s.udpMessages = []) : Released s where
  sockets := htable ▸ Table.empty_allClosed
  inactive := hactive
  stopped h := by simp [hsent] at h

theorem IdleAt.udpMessages (h : IdleAt as s) : s.udpMessages = [] := by
  rw [AudioState.udpMessages, h.noSwitch, Option.getD_none, h.sent]

/-- A descriptor that is still open. -/
theorem not_released {fd : Int} (h : fd ∈ s.table.live) : ¬ Released s :=
  fun hreleased => Table.not_allClosed h hreleased.sockets

theorem tcpOnly_stage_returned (s : AudioState) (t : Table) :
    (s.tcpOnly (INVALID_SOCKET, t)).pc.stage = .returned := rfl

theorem tcpOnly_stage_holding (s : AudioState) {fd : Int} (t : Table) (h : 0 ≤ fd) :
    (s.tcpOnly (fd, t)).pc.stage = .holding := by
  have hne : fd ≠ INVALID_SOCKET := by
    rintro rfl
    exact absurd h (by decide)
  simp [AudioState.tcpOnly, hne, AudioPc.stage]

/-- `GetConnection` with nothing open. -/
theorem IdleAt.tcp {p : Peer} {r : Int × Table} (h : IdleAt as s)
    (hmove : GetConnectionMove p s.table r) : Inv (as ++ [.connection p]) (s.tcpOnly r) := by
  have hsmooth := h.answers.smooth_connection p
  cases hmove with
  | failed hzero =>
      rw [inv_iff .returned (tcpOnly_stage_returned s _)]
      have hreleased : Released (s.tcpOnly (INVALID_SOCKET, s.table)) :=
        released_of_quiet h.table h.inactive h.sent
      exact ⟨fun _ => hsmooth.mpr hzero, fun _ => hreleased⟩
  | dropped hzero =>
      rw [inv_iff .returned (tcpOnly_stage_returned s _)]
      -- descriptor 0 was opened and then dropped: nothing closes it any more
      have hopen : (0 : Int) ∈ (s.tcpOnly (INVALID_SOCKET, s.table.opened 0)).table.live :=
        List.mem_cons_self
      exact ⟨fun hreleased => absurd hreleased (not_released hopen),
        fun hall => absurd hzero (hsmooth.mp hall)⟩
  | opened fd hfd hzero hfresh =>
      rw [inv_iff .holding (tcpOnly_stage_holding s _ hfd)]
      rcases Int.le_iff_eq_or_lt.mp hfd with hfd0 | hpos
      · refine .lost (List.mem_cons_self (a := fd)) ?_ ?_
        · intro hpos
          exact absurd hfd0 (Int.ne_of_lt hpos)
        · exact fun hall => hsmooth.mp hall (hzero.mp hfd0.symm)
      · have hleft : ¬ p.LeavesZero := fun hp => absurd (hzero.mpr hp) (Int.ne_of_gt hpos)
        have htable : s.table.opened fd = Table.empty.opened fd := by rw [h.table]
        exact .tcp rfl hpos htable (congrArg some h.sent) (hsmooth.mpr hleft)

/-- `GetConnection` with a UDP socket that is left open. -/
theorem tcp_of_left {p : Peer} {r : Int × Table} {fd : Nat} (htable : (fd : Int) ∈ s.table.live)
    (hfd : .socket (.value fd) ∈ as) (has : Unanswered as) (hp : p.Fresh s.table)
    (hmove : GetConnectionMove p s.table r) : Inv (as ++ [.connection p]) (s.tcpOnly r) := by
  have hrough := has.not_smooth_connection hfd p
  cases hmove with
  | failed hzero =>
      rw [inv_iff .returned (tcpOnly_stage_returned s _)]
      exact ⟨fun hreleased => absurd hreleased (not_released htable),
        fun hall => absurd hall hrough⟩
  | dropped hzero =>
      rw [inv_iff .returned (tcpOnly_stage_returned s _)]
      have hopen : (fd : Int) ∈ (s.tcpOnly (INVALID_SOCKET, s.table.opened 0)).table.live :=
        List.mem_cons_of_mem _ htable
      exact ⟨fun hreleased => absurd hreleased (not_released hopen),
        fun hall => absurd hall hrough⟩
  | opened fd' hfd' hzero hfresh =>
      rw [inv_iff .holding (tcpOnly_stage_holding s _ hfd')]
      refine .lost (List.mem_cons_of_mem _ htable) ?_ hrough
      rintro - rfl
      exact hfresh hp htable

theorem earlyOut_table (s : AudioState) :
    s.earlyOut.table = if s.socket > 0 then s.table.close s.socket else s.table := by
  rw [AudioState.earlyOut]
  split <;> rfl

theorem earlyOut_inactive (s : AudioState) : s.earlyOut.aActive = 0 := by
  rw [AudioState.earlyOut]
  split <;> rfl

/-- The thread closes what it holds. -/
theorem earlyOut_allClosed (hpos : 0 < s.socket) (htable : s.table = Table.empty.opened s.socket) :
    s.earlyOut.table.AllClosed := by
  rw [earlyOut_table, if_pos hpos, htable, Table.close_opened]
  exact Table.empty_allClosed

theorem HoldingAt.finish (h : HoldingAt as s) : Released s.earlyOut ↔ Smooth as := by
  cases h with
  | udp hmode hpos htable hswitch has =>
      have hreleased : Released s.earlyOut := by
        refine ⟨earlyOut_allClosed hpos htable, earlyOut_inactive s, fun _ => ?_⟩
        simp [AudioState.udpMessages, AudioState.earlyOut, hmode, hswitch,
          AudioState.sendUdpMessage]
      exact ⟨fun _ => has, fun _ => hreleased⟩
  | tcp hmode hpos htable hswitch has =>
      have hreleased : Released s.earlyOut := by
        refine ⟨earlyOut_allClosed hpos htable, earlyOut_inactive s, fun hmem => ?_⟩
        simp [AudioState.udpMessages, AudioState.earlyOut, hmode, hswitch,
          TCP_STREAM, UDP_STREAM] at hmem
      exact ⟨fun _ => has, fun _ => hreleased⟩
  -- what `early_out` cannot reach: another descriptor than `socket`, or a `socket` of 0
  | @lost fd htable hfd has =>
      have hopen : fd ∈ s.earlyOut.table.live := by
        rw [earlyOut_table]
        split
        · rename_i hpos
          exact Table.mem_close (hfd hpos) htable
        · exact htable
      exact ⟨fun hreleased => absurd hreleased (not_released hopen),
        fun hall => absurd hall has⟩

theorem keepAlive_frame (s : AudioState) :
    s.keepAlive.mode = s.mode ∧ s.keepAlive.socket = s.socket ∧ s.keepAlive.table = s.table ∧
      s.keepAlive.atSwitch = s.atSwitch := by
  rw [AudioState.keepAlive]
  split_ifs <;> exact ⟨rfl, rfl, rfl, rfl⟩

/-- The streaming loop changes neither what is held nor what is owed. -/
theorem HoldingAt.plain {t : AudioState} (h : HoldingAt as s) (ha : a.Plain)
    (hmode : t.mode = s.mode) (hsocket : t.socket = s.socket) (htable : t.table = s.table)
    (hswitch : t.atSwitch = s.atSwitch) : HoldingAt (as ++ [a]) t := by
  have hsmooth : Smooth (as ++ [a]) ↔ Smooth as := smooth_plain ha
  cases h with
  | udp hmode' hpos htable' hswitch' has =>
      exact .udp (hmode.trans hmode') (hsocket ▸ hpos) (htable.trans (hsocket ▸ htable'))
        (hswitch.trans hswitch') (hsmooth.mpr has)
  | tcp hmode' hpos htable' hswitch' has =>
      exact .tcp (hmode.trans hmode') (hsocket ▸ hpos) (htable.trans (hsocket ▸ htable'))
        (hswitch.trans hswitch') (hsmooth.mpr has)
  | lost htable' hfd has =>
      exact .lost (htable ▸ htable') (hsocket ▸ hfd) fun hall => has (hsmooth.mp hall)

theorem ProbingAt.plain {t : AudioState} (h : ProbingAt as s) (ha : Unanswered (as ++ [a]))
    (hsocket : t.socket = s.socket) (htable : t.table = s.table) (hactive : t.aActive = s.aActive)
    (hswitch : t.atSwitch = s.atSwitch) : ProbingAt (as ++ [a]) t where
  positive := hsocket ▸ h.positive
  table := htable.trans (hsocket ▸ h.table)
  inactive := hactive.trans h.inactive
  noSwitch := hswitch.trans h.noSwitch
  socket := by
    obtain ⟨fd, hfd, hmem⟩ := h.socket
    exact ⟨fd, hsocket.trans hfd, List.mem_append_left _ hmem⟩
  answers := ha

/-- The tries are over. -/
theorem ProbingAt.turn (h : ProbingAt as s) (ha : Unanswered (as ++ [a])) :
    TurningAt (as ++ [a]) { s with pc := .tcpOnly } := by
  obtain ⟨fd, hfd, hmem⟩ := h.socket
  have hopen : (fd : Int) ∈ s.table.live := by
    rw [h.table, hfd]
    exact List.mem_cons_self
  exact .left hopen h.inactive (List.mem_append_left _ hmem) ha

theorem IdleAt.plain (h : IdleAt as s) (ha : a.Plain) (pc : AudioPc) :
    IdleAt (as ++ [a]) { s with pc } where
  table := h.table
  inactive := h.inactive
  sent := h.sent
  noSwitch := h.noSwitch
  answers := h.answers.plain ha

/-- A step keeps the invariant. -/
theorem Inv.step {t : AudioState} (h : Inv as s) (hstep : audioStep strerror s a = some t) :
    Inv (as ++ [a]) t := by
  cases audioStep_move strerror hstep with
  | @wait b pc hpc hnext =>
      have hidle : IdleAt as s := (inv_iff .idle hpc).mp h
      rw [inv_iff .idle hnext]
      exact hidle.plain (a := .flag b) trivial pc
  | @leave b hpc =>
      have hidle : IdleAt as s := (inv_iff .idle hpc).mp h
      have hnext := hidle.plain (a := .flag b) trivial .returned
      rw [inv_iff .returned rfl]
      have hreleased := released_of_quiet hnext.table hnext.inactive hnext.udpMessages
      exact ⟨fun _ => hnext.answers.smooth, fun _ => hreleased⟩
  -- a phone on iOS or behind adb is asked over TCP at once
  | @toTcp b hpc =>
      have hidle : IdleAt as s := (inv_iff .idle hpc).mp h
      rw [inv_iff .turning rfl]
      exact .clean (hidle.plain (a := .flag b) trivial .tcpOnly)
  | @noUdp e hpc =>
      have hidle : IdleAt as s := (inv_iff .idle hpc).mp h
      rw [inv_iff .turning rfl]
      exact .clean ⟨hidle.table, hidle.inactive, hidle.sent, hidle.noSwitch, hidle.answers.error e⟩
  -- `socket` answered 0, which `socket <= 0` reads as a failure
  | zeroUdp hpc =>
      have hidle : IdleAt as s := (inv_iff .idle hpc).mp h
      rw [inv_iff .turning rfl]
      have hopen : ((0 : Nat) : Int) ∈ (s.table.opened 0).live := List.mem_cons_self
      exact .left hopen hidle.inactive (by simp) (hidle.answers.socket _)
  | @udp fd hpc hpos =>
      have hidle : IdleAt as s := (inv_iff .idle hpc).mp h
      rw [inv_iff .probing rfl]
      exact
        { positive := Int.natCast_pos.mpr hpos
          table := congrArg (Table.opened · fd) hidle.table
          inactive := hidle.inactive
          noSwitch := hidle.noSwitch
          socket := ⟨fd, rfl, by simp⟩
          answers := hidle.answers.socket _ }
  | request hpc =>
      have hprobing : ProbingAt as s := (inv_iff .probing hpc).mp h
      rw [inv_iff .probing rfl]
      exact hprobing.plain (hprobing.answers.plain trivial) rfl rfl rfl rfl
  | exhausted hpc =>
      have hprobing : ProbingAt as s := (inv_iff .probing hpc).mp h
      rw [inv_iff .turning rfl]
      exact hprobing.turn (hprobing.answers.plain trivial)
  | silence hpc hnext =>
      have hprobing : ProbingAt as s := (inv_iff .probing hpc).mp h
      rw [inv_iff .probing hnext]
      exact hprobing.plain (hprobing.answers.poll (Int.le_refl 0)) rfl rfl rfl rfl
  | pollFails hpc hlen =>
      have hprobing : ProbingAt as s := (inv_iff .probing hpc).mp h
      rw [inv_iff .turning rfl]
      exact hprobing.turn (hprobing.answers.poll (Int.le_of_lt hlen))
  | answered hpc hlen =>
      have hprobing : ProbingAt as s := (inv_iff .probing hpc).mp h
      rw [inv_iff .holding rfl]
      exact .udp rfl hprobing.positive hprobing.table hprobing.noSwitch
        (hprobing.answers.packet hlen)
  | @tcp p hpc hfresh =>
      have hturning : TurningAt as s := (inv_iff .turning hpc).mp h
      have hmove := getConnection_move strerror p s.table
      cases hturning with
      | clean hidle => exact hidle.tcp hmove
      | left htable hactive hfd has => exact tcp_of_left htable hfd has hfresh hmove
  | stream hpc hnext hplain =>
      have hholding : HoldingAt as s := (inv_iff .holding hpc).mp h
      rw [inv_iff .holding hnext]
      exact hholding.plain hplain rfl rfl rfl rfl
  | keepAlive hpc =>
      have hholding : HoldingAt as s := (inv_iff .holding hpc).mp h
      obtain ⟨hmode, hsocket, htable, hswitch⟩ := keepAlive_frame s
      rw [inv_iff .holding rfl]
      exact hholding.plain trivial hmode hsocket htable hswitch
  | finish hpc =>
      have hholding : HoldingAt as s := (inv_iff .holding hpc).mp h
      have hsmooth : Smooth (as ++ [.go]) ↔ Smooth as := smooth_plain trivial
      rw [inv_iff .returned rfl]
      exact hholding.finish.trans hsmooth.symm

theorem Inv.run {t : AudioState}
    (h : Run (ofNext (audioStep strerror)) AudioState.init as t) : Inv as t := by
  generalize hinit : AudioState.init = start at h
  induction h with
  | nil => exact hinit ▸ Inv.init
  | snoc _ hstep ih => exact ih.step strerror hstep

/-- **A session leaves nothing behind** exactly when a UDP socket brings a packet and
    no descriptor is 0: the turn to TCP keeps the UDP socket open and stops nothing. -/
theorem sockets_released_iff {t : AudioState}
    (h : Run (ofNext (audioStep strerror)) AudioState.init as t) (hret : t.pc = .returned) :
    Released t ↔ Smooth as := by
  have hinv : Inv as t := Inv.run strerror h
  have hstage : t.pc.stage = .returned := by rw [hret, AudioPc.stage]
  exact (inv_iff .returned hstage).mp hinv

/-- A phone that answers over UDP, and a session of one turn. -/
def answeredSession : List Answer :=
  [.flag true, .flag true, .flag true, .flag false, .flag false, .socket (.value 5), .go,
    .poll 140, .go, .flag false, .go]

theorem answered_released :
    ∃ t, Run (ofNext (audioStep fun _ => "")) AudioState.init answeredSession t ∧ Released t := by
  have hrun : Run (ofNext (audioStep fun _ => "")) AudioState.init answeredSession
      ⟨.returned, UDP_STREAM, 5, 0, 0, Table.empty, [AUDIO_REQ, STOP_REQ], none⟩ :=
    Run.of_execute rfl
  have hsmooth : Smooth answeredSession :=
    ⟨fun _ _ => ⟨140, by decide, by simp [answeredSession]⟩, by simp [answeredSession]⟩
  exact ⟨_, hrun, (sockets_released_iff _ hrun rfl).mpr hsmooth⟩

/-- A phone that takes TCP connections. -/
def tcpPeer : Peer where
  connection := 0
  usb := ⟨0, -1⟩
  network :=
    { socket := .value 6
      getFlags := .value 2
      setFlags := .value 0
      connect := .error EINPROGRESS
      select := .value 1
      fate := .established
      connected := fun _ _ => rfl
      rejected := fun _ h hne => absurd (Reply.error.inj h).symm hne
      writable := fun n h => by simp [← Reply.value.inj h] }
  errno := 0

def silentTry : List Answer := .go :: List.replicate 12 (.poll 0)

/-- A phone that does not answer over UDP, and then a session over TCP. -/
def silentSession : List Answer :=
  [.flag true, .flag true, .flag true, .flag false, .flag false, .socket (.value 5)] ++
    silentTry ++ silentTry ++ silentTry ++
    [.go, .connection tcpPeer, .result 1, .header 6 (HEADER ++ [CHUNKS_PER_PACKET]), .go,
      .flag false, .go]

/-- The UDP socket stays open, and the phone is not told to stop. -/
theorem silent_not_released :
    ∃ t, Run (ofNext (audioStep fun _ => "")) AudioState.init silentSession t ∧
      t.pc = .returned ∧ ¬ Released t := by
  have hrun : Run (ofNext (audioStep fun _ => "")) AudioState.init silentSession
      ⟨.returned, TCP_STREAM, 6, 0, 0, ⟨[5], 0⟩, [AUDIO_REQ, AUDIO_REQ, AUDIO_REQ],
        some [AUDIO_REQ, AUDIO_REQ, AUDIO_REQ]⟩ :=
    Run.of_execute rfl
  exact ⟨_, hrun, rfl, not_released List.mem_cons_self⟩

end DroidCam.AudioSession
