import DroidCam.Lib.Descriptors

/-
  DroidCam/Connection.lean
  ========================
  `Connect`, which tries for two seconds, and `GetConnection`.

  Whether the connection is there is read off two things: `errno` behind the
  non-blocking `connect`, and what `select` says.  Neither what `connect` returned nor
  the error pending on the socket is looked at, so the answer is compared here with
  what has really become of the connection (`Fate`).
-/

namespace DroidCam.Connection

open Descriptors

/-! ### The calls -/

def INVALID_SOCKET : Int := -1

def EINTR : Errno := 4

def EAGAIN : Errno := 11

def EWOULDBLOCK : Errno := EAGAIN

def EINPROGRESS : Errno := 115

def ECONNREFUSED : Errno := 111

/-- What has become of the connection when the time is over. -/
inductive Fate where
  | established
  /-- The peer refused or could not be reached; the error is pending on the socket. -/
  | refused (soError : Errno)
  | undecided
deriving DecidableEq, Repr

/-- The kernel and the peer during one call of `Connect`. -/
structure Network where
  socket : Reply
  getFlags : Reply
  setFlags : Reply
  connect : Reply
  select : Reply
  fate : Fate
  /-- 0 is a connection. -/
  connected : ∀ n, connect = .value n → fate = .established
  /-- The attempt goes on behind `EINPROGRESS` and `EINTR` only. -/
  rejected : ∀ e, connect = .error e → e ≠ EINPROGRESS → e ≠ EINTR →
    ∃ soError, fate = .refused soError
  /-- The socket is writable once the attempt is decided, for better or for worse. -/
  writable : ∀ n, select = .value n → (0 < n ↔ fate ≠ .undecided)

/-! ### `Connect` -/

def DROIDCAM_CONNECT_ERROR : String :=
  "Connect failed, please try again.\n" ++
  "Check IP and Port.\n" ++
  "Check network connection.\n"

/-- `errno == EAGAIN || errno == EWOULDBLOCK || errno == EINPROGRESS`. -/
def Waits (errno : Errno) : Prop := errno = EAGAIN ∨ errno = EWOULDBLOCK ∨ errno = EINPROGRESS

instance (errno : Errno) : Decidable (Waits errno) :=
  inferInstanceAs (Decidable (_ ∨ _ ∨ _))

/-- What a call leaves behind; `errormsg` is `none` where `*errormsg` is not set. -/
structure Connected where
  sock : Int
  errormsg : Option String
  table : Table

variable (strerror : Errno → String)

def connect (w : Network) (errno : Errno) (t : Table) : Connected :=
  let sock := w.socket.ret
  let errno := w.socket.errno errno
  if sock = INVALID_SOCKET then ⟨sock, some (strerror errno), t⟩
  else
    let t := t.opened sock
    let flags := w.getFlags.ret
    let errno := w.getFlags.errno errno
    if flags < 0 then ⟨INVALID_SOCKET, some (strerror errno), t.close sock⟩
    else
      -- what F_SETFL and connect return is dropped, their errno is not
      let errno := w.setFlags.errno errno
      let errno := w.connect.errno errno
      if ¬ Waits errno ∨ w.select.ret ≤ 0 then
        ⟨INVALID_SOCKET, some DROIDCAM_CONNECT_ERROR, t.close sock⟩
      else ⟨sock, none, t⟩

/-- The calls before `connect` succeed. -/
def Attempted (w : Network) (fd : Nat) : Prop :=
  w.socket = .value fd ∧ ∃ flags, w.getFlags = .value flags

/-- `errno` where `Connect` tests it. -/
def errnoTested (w : Network) (errno : Errno) : Errno := w.connect.errno (w.setFlags.errno errno)

theorem connect_attempted {w : Network} {fd : Nat} (errno : Errno) (t : Table)
    (h : Attempted w fd) :
    connect strerror w errno t =
      if Waits (errnoTested w errno) ∧ 0 < w.select.ret then ⟨fd, none, t.opened fd⟩
      else ⟨INVALID_SOCKET, some DROIDCAM_CONNECT_ERROR, t⟩ := by
  obtain ⟨hsocket, flags, hflags⟩ := h
  have hvalid : (fd : Int) ≠ INVALID_SOCKET := by simp [INVALID_SOCKET]
  have hflags' : ¬ (flags : Int) < 0 := Int.not_lt.mpr (Int.natCast_nonneg flags)
  simp only [connect, hsocket, hflags, Reply.ret_value, Reply.errno_value, if_neg hvalid,
    if_neg hflags', Table.close_opened]
  change (if ¬ Waits (errnoTested w errno) ∨ w.select.ret ≤ 0 then _ else _) = _
  by_cases hgood : Waits (errnoTested w errno) ∧ 0 < w.select.ret
  · have hnot : ¬ (¬ Waits (errnoTested w errno) ∨ w.select.ret ≤ 0) :=
      fun h => h.elim (fun hwaits => hwaits hgood.1) (Int.not_le.mpr hgood.2)
    rw [if_pos hgood, if_neg hnot]
  · have hbad : ¬ Waits (errnoTested w errno) ∨ w.select.ret ≤ 0 :=
      (not_and_or.mp hgood).imp_right Int.not_lt.mp
    rw [if_neg hgood, if_pos hbad]

/-- A call that does not come as far as `connect` fails. -/
theorem connect_not_attempted {w : Network} (errno : Errno) (t : Table)
    (h : ∀ fd, ¬ Attempted w fd) :
    ∃ e, connect strerror w errno t = ⟨INVALID_SOCKET, some (strerror e), t⟩ := by
  cases hsocket : w.socket with
  | error e => exact ⟨e, by simp [connect, hsocket, INVALID_SOCKET]⟩
  | value fd =>
      cases hflags : w.getFlags with
      | error e =>
          have hvalid : (fd : Int) ≠ INVALID_SOCKET := by simp [INVALID_SOCKET]
          exact ⟨e, by simp [connect, hsocket, hflags, hvalid]⟩
      | value flags => exact absurd ⟨hsocket, flags, hflags⟩ (h fd)

/-- **A failing `Connect`** has closed its socket and says why. -/
theorem connect_failed (w : Network) (errno : Errno) (t : Table)
    (h : (connect strerror w errno t).sock = INVALID_SOCKET) :
    (connect strerror w errno t).table = t ∧ (connect strerror w errno t).errormsg ≠ none := by
  by_cases hattempt : ∃ fd, Attempted w fd
  · obtain ⟨fd, hfd⟩ := hattempt
    have hvalid : (fd : Int) ≠ INVALID_SOCKET := by simp [INVALID_SOCKET]
    rw [connect_attempted strerror errno t hfd] at h ⊢
    split at h
    · exact absurd h hvalid
    · rename_i hbad
      rw [if_neg hbad]
      exact ⟨rfl, Option.some_ne_none _⟩
  · obtain ⟨e, he⟩ := connect_not_attempted strerror errno t (not_exists.mp hattempt)
    rw [he]
    exact ⟨rfl, Option.some_ne_none _⟩

/-- **A socket that is returned** is the one that was opened, and it is open. -/
theorem connect_returned (w : Network) (errno : Errno) (t : Table)
    (h : (connect strerror w errno t).sock ≠ INVALID_SOCKET) :
    ∃ fd : Nat, Attempted w fd ∧ (Waits (errnoTested w errno) ∧ 0 < w.select.ret) ∧
      connect strerror w errno t = ⟨fd, none, t.opened fd⟩ := by
  by_cases hattempt : ∃ fd, Attempted w fd
  · obtain ⟨fd, hfd⟩ := hattempt
    refine ⟨fd, hfd, ?_⟩
    rw [connect_attempted strerror errno t hfd] at h ⊢
    split at h
    · rename_i hgood
      exact ⟨hgood, if_pos hgood⟩
    · exact absurd rfl h
  · obtain ⟨e, he⟩ := connect_not_attempted strerror errno t (not_exists.mp hattempt)
    rw [he] at h
    exact absurd rfl h

/-! ### What has become of the connection

`errno` is read after `connect` whether it failed or not, and `select` reports a refused
connection as writable. -/

/-- The connection has been made in time. -/
def Established (w : Network) : Prop := (∃ fd, Attempted w fd) ∧ w.fate = .established

/-- A socket for a connection that is there; otherwise none, with nothing left open
    and a reason. -/
structure Honest (w : Network) (t : Table) (c : Connected) : Prop where
  valid : c.sock ≠ INVALID_SOCKET ↔ Established w
  failed : c.sock = INVALID_SOCKET → c.table = t ∧ c.errormsg ≠ none

/-- The attempts that `Connect` takes for something else. -/
inductive Mistaken (w : Network) (errno : Errno) : Prop where
  /-- Connected at once, and `errno` is from an earlier call. -/
  | staleErrno (n : Nat) (hconnect : w.connect = .value n)
      (herrno : ¬ Waits (w.setFlags.errno errno))
  /-- A signal came, the attempt went on and succeeded. -/
  | interrupted (hconnect : w.connect = .error EINTR) (hfate : w.fate = .established)
  /-- The socket is writable because the attempt failed. -/
  | refusal (e soError : Errno) (n : Nat) (hconnect : w.connect = .error e) (herrno : Waits e)
      (hfate : w.fate = .refused soError) (hselect : w.select = .value n)
  /-- Connected, but `select` fails, as by a signal. -/
  | selectFails (e : Errno) (hfate : w.fate = .established) (hselect : w.select = .error e)
      (herrno : Waits (errnoTested w errno))

/-- `select` is content once the attempt is decided. -/
theorem select_pos_iff (w : Network) :
    0 < w.select.ret ↔ (∃ n, w.select = .value n) ∧ w.fate ≠ .undecided := by
  cases hselect : w.select with
  | error e => simp
  | value n =>
      have hwritable : 0 < n ↔ w.fate ≠ .undecided := w.writable n hselect
      simp [hwritable]

/-- The sockets that are returned. -/
theorem connect_valid_iff {w : Network} {fd : Nat} (errno : Errno) (t : Table)
    (h : Attempted w fd) :
    (connect strerror w errno t).sock ≠ INVALID_SOCKET ↔
      Waits (errnoTested w errno) ∧ (∃ n, w.select = .value n) ∧ w.fate ≠ .undecided := by
  have hvalid : (fd : Int) ≠ INVALID_SOCKET := by simp [INVALID_SOCKET]
  rw [connect_attempted strerror errno t h, ← select_pos_iff]
  split
  · rename_i hgood
    exact ⟨fun _ => hgood, fun _ => hvalid⟩
  · rename_i hbad
    exact ⟨fun hne => absurd rfl hne, fun hgood => absurd hgood hbad⟩

theorem errnoTested_value {w : Network} {n : Nat} (errno : Errno) (h : w.connect = .value n) :
    errnoTested w errno = w.setFlags.errno errno := by
  rw [errnoTested, h, Reply.errno_value]

theorem errnoTested_error {w : Network} {e : Errno} (errno : Errno) (h : w.connect = .error e) :
    errnoTested w errno = e := by
  rw [errnoTested, h, Reply.errno_error]

/-- A connection that `errno` does not speak for. -/
theorem mistaken_of_established {w : Network} {errno : Errno} (hfate : w.fate = .established)
    (hnot : ¬ Waits (errnoTested w errno)) : Mistaken w errno := by
  cases hconnect : w.connect with
  | value n =>
      rw [errnoTested_value errno hconnect] at hnot
      exact .staleErrno n hconnect hnot
  | error e =>
      rw [errnoTested_error errno hconnect] at hnot
      by_cases hintr : e = EINTR
      · exact .interrupted (hintr ▸ hconnect) hfate
      · have hprogress : e ≠ EINPROGRESS := fun h => hnot (Or.inr (Or.inr h))
        obtain ⟨soError, hrefused⟩ := w.rejected e hconnect hprogress hintr
        exact Fate.noConfusion (hfate.symm.trans hrefused)

/-- A socket for an attempt that failed. -/
theorem mistaken_of_refused {w : Network} {errno soError : Errno} {n : Nat}
    (hfate : w.fate = .refused soError) (hwaits : Waits (errnoTested w errno))
    (hselect : w.select = .value n) : Mistaken w errno := by
  cases hconnect : w.connect with
  | value m => exact Fate.noConfusion (hfate.symm.trans (w.connected m hconnect))
  | error e =>
      rw [errnoTested_error errno hconnect] at hwaits
      exact .refusal e soError n hconnect hwaits hfate hselect

/-- Behind `connect` the answer is right unless one of the four things happened. -/
theorem classified_iff (w : Network) (errno : Errno) :
    ((Waits (errnoTested w errno) ∧ (∃ n, w.select = .value n) ∧ w.fate ≠ .undecided) ↔
      w.fate = .established) ↔ ¬ Mistaken w errno := by
  constructor
  · intro hright hmistaken
    -- an immediate success leaves the `errno` of an earlier call
    cases hmistaken with
    | staleErrno n hconnect herrno =>
        obtain ⟨hwaits, -⟩ := hright.mpr (w.connected n hconnect)
        rw [errnoTested_value errno hconnect] at hwaits
        exact herrno hwaits
    | interrupted hconnect hfate =>
        obtain ⟨hwaits, -⟩ := hright.mpr hfate
        rw [errnoTested_error errno hconnect] at hwaits
        exact absurd hwaits (by decide)
    -- a refusal makes the socket writable, and `SO_ERROR` is not asked
    | refusal e soError n hconnect herrno hfate hselect =>
        rw [← errnoTested_error errno hconnect] at herrno
        have hdecided : w.fate ≠ .undecided := by simp [hfate]
        have hestablished := hright.mp ⟨herrno, ⟨n, hselect⟩, hdecided⟩
        exact Fate.noConfusion (hfate.symm.trans hestablished)
    | selectFails e hfate hselect herrno =>
        obtain ⟨-, ⟨n, hvalue⟩, -⟩ := hright.mpr hfate
        exact Reply.noConfusion (hselect.symm.trans hvalue)
  · intro hright
    constructor
    · rintro ⟨hwaits, ⟨n, hselect⟩, hdecided⟩
      -- writable, so the attempt is decided; taking a refusal for it would be a mistake
      cases hfate : w.fate with
      | established => rfl
      | refused soError => exact absurd (mistaken_of_refused hfate hwaits hselect) hright
      | undecided => exact absurd hfate hdecided
    · intro hfate
      have hwaits : Waits (errnoTested w errno) := by
        by_contra hnot
        exact hright (mistaken_of_established hfate hnot)
      refine ⟨hwaits, ?_, by simp [hfate]⟩
      cases hselect : w.select with
      | value n => exact ⟨n, rfl⟩
      | error e => exact absurd (.selectFails e hfate hselect hwaits) hright

/-- **`Connect` tells what has become of the connection** exactly when the attempt, if
    it came to one, was none of the four that it mistakes. -/
theorem connect_honest_iff (w : Network) (errno : Errno) (t : Table) :
    Honest w t (connect strerror w errno t) ↔ ∀ fd, Attempted w fd → ¬ Mistaken w errno := by
  by_cases hattempt : ∃ fd, Attempted w fd
  · obtain ⟨fd, hfd⟩ := hattempt
    have hvalid := connect_valid_iff strerror errno t hfd
    have hestablished : Established w ↔ w.fate = .established :=
      ⟨fun h => h.2, fun h => ⟨⟨fd, hfd⟩, h⟩⟩
    constructor
    · intro hhonest _ _
      rw [← classified_iff w errno, ← hvalid, ← hestablished]
      exact hhonest.valid
    · intro hright
      refine ⟨?_, connect_failed strerror w errno t⟩
      rw [hvalid, hestablished]
      exact (classified_iff w errno).mpr (hright fd hfd)
  · have hnone := not_exists.mp hattempt
    obtain ⟨e, he⟩ := connect_not_attempted strerror errno t hnone
    refine ⟨fun _ fd hfd => absurd hfd (hnone fd), fun _ => ⟨?_, ?_⟩⟩
    · rw [he]
      exact ⟨fun h => absurd rfl h, fun h => absurd h.1 hattempt⟩
    · exact connect_failed strerror w errno t

/-- A peer that refuses while `select` waits. -/
def refusingPeer : Network where
  socket := .value 5
  getFlags := .value 2
  setFlags := .value 0
  connect := .error EINPROGRESS
  select := .value 1
  fate := .refused ECONNREFUSED
  connected _ h := Reply.noConfusion h
  rejected _ h hne := absurd (Reply.error.inj h).symm hne
  writable n h := by simp [← Reply.value.inj h]

/-- The refusal comes back as a socket. -/
theorem connect_refused :
    ¬ Honest refusingPeer Table.empty
        (connect (fun _ => "Operation now in progress") refusingPeer 0 Table.empty) := by
  intro h
  have hestablished : Established refusingPeer := h.valid.mp (by decide)
  exact Fate.noConfusion hestablished.2

/-! ### `GetConnection` -/

def CB_RADIO_IOS : Int32 := 2

def ERROR_NO_DEVICES : Int := -1

def ERROR_LOADING_DEVICES : Int := -2

def ERROR_ADDING_FORWARD : Int := -3

/-- What `usbmuxd` answers: a descriptor, or something negative. -/
structure Usb where
  deviceCount : Int
  sfd : Int
deriving DecidableEq

def checkiOSDevices (u : Usb) (t : Table) : Int × Table :=
  if u.deviceCount < 0 then (ERROR_LOADING_DEVICES, t)
  else if u.deviceCount = 0 then (ERROR_NO_DEVICES, t)
  else
    let t := if 0 ≤ u.sfd then t.opened u.sfd else t
    if u.sfd ≤ 0 then (ERROR_ADDING_FORWARD, t) else (u.sfd, t)

/-- Everything that one call of `GetConnection` depends on. -/
structure Peer where
  connection : Int32
  usb : Usb
  network : Network
  errno : Errno

def getConnection (p : Peer) (t : Table) : Int × Table :=
  if p.connection = CB_RADIO_IOS then
    let (socket, t) := checkiOSDevices p.usb t
    if socket ≤ 0 then (INVALID_SOCKET, t) else (socket, t)
  else
    let c := connect strerror p.network p.errno t
    (c.sock, c.table)

/-- The kernel hands out descriptors that are not in use. -/
def Peer.Fresh (p : Peer) (t : Table) : Prop :=
  p.network.socket.ret ∉ t.live ∧ p.usb.sfd ∉ t.live

instance (p : Peer) (t : Table) : Decidable (p.Fresh t) :=
  inferInstanceAs (Decidable (_ ∧ _))

/-- The descriptor that stays open is 0: `Connect` returns it, `CheckiOSDevices` takes
    it for a failure. -/
def Peer.LeavesZero (p : Peer) : Prop :=
  if p.connection = CB_RADIO_IOS then 0 < p.usb.deviceCount ∧ p.usb.sfd = 0
  else Attempted p.network 0 ∧ Waits (errnoTested p.network p.errno) ∧ 0 < p.network.select.ret

/-- What `GetConnection` returns and leaves open. -/
inductive GetConnectionMove (p : Peer) (t : Table) : Int × Table → Prop where
  | failed (hzero : ¬ p.LeavesZero) : GetConnectionMove p t (INVALID_SOCKET, t)
  | dropped (hzero : p.LeavesZero) : GetConnectionMove p t (INVALID_SOCKET, t.opened 0)
  | opened (fd : Int) (hfd : 0 ≤ fd) (hzero : fd = 0 ↔ p.LeavesZero)
      (hfresh : p.Fresh t → fd ∉ t.live) : GetConnectionMove p t (fd, t.opened fd)

theorem checkiOSDevices_move {p : Peer} (t : Table) (hios : p.connection = CB_RADIO_IOS) :
    GetConnectionMove p t
      (if (checkiOSDevices p.usb t).1 ≤ 0 then (INVALID_SOCKET, (checkiOSDevices p.usb t).2)
        else checkiOSDevices p.usb t) := by
  have hzero : p.LeavesZero ↔ 0 < p.usb.deviceCount ∧ p.usb.sfd = 0 := by
    rw [Peer.LeavesZero, if_pos hios]
  rw [checkiOSDevices]
  split
  · rename_i hcount
    exact .failed fun h => absurd (hzero.mp h).1 (Int.not_lt.mpr (Int.le_of_lt hcount))
  · rename_i hcount
    split
    · rename_i hnone
      exact .failed fun h => absurd (hzero.mp h).1 (Int.not_lt.mpr (Int.le_of_eq hnone))
    · rename_i hnone
      have hpos : 0 < p.usb.deviceCount :=
        Int.lt_iff_le_and_ne.mpr ⟨Int.not_lt.mp hcount, fun h => hnone h.symm⟩
      -- below 0 the call failed; 0 is dropped as if it had; above, the descriptor is
      -- returned
      rcases Int.lt_trichotomy p.usb.sfd 0 with hneg | hsfd | hsfd
      · have hopen : ¬ 0 ≤ p.usb.sfd := Int.not_le.mpr hneg
        simp only [if_neg hopen, if_pos (Int.le_of_lt hneg)]
        exact .failed fun h => absurd (hzero.mp h).2 (Int.ne_of_lt hneg)
      · simp only [hsfd]
        exact .dropped (hzero.mpr ⟨hpos, hsfd⟩)
      · have hret : ¬ p.usb.sfd ≤ 0 := Int.not_le.mpr hsfd
        have hne : p.usb.sfd ≠ 0 := Int.ne_of_gt hsfd
        simp only [if_neg hret, if_pos (Int.le_of_lt hsfd)]
        refine .opened _ (Int.le_of_lt hsfd) ?_ fun h => h.2
        exact ⟨fun h => absurd h hne, fun h => absurd (hzero.mp h).2 hne⟩

theorem getConnection_move (p : Peer) (t : Table) :
    GetConnectionMove p t (getConnection strerror p t) := by
  rw [getConnection]
  split
  · rename_i hios
    exact checkiOSDevices_move t hios
  · rename_i hios
    have hzero : p.LeavesZero ↔ Attempted p.network 0 ∧ Waits (errnoTested p.network p.errno) ∧
        0 < p.network.select.ret := by
      rw [Peer.LeavesZero, if_neg hios]
    by_cases hsock : (connect strerror p.network p.errno t).sock = INVALID_SOCKET
    · obtain ⟨htable, -⟩ := connect_failed strerror p.network p.errno t hsock
      simp only [hsock, htable]
      refine .failed fun h => ?_
      obtain ⟨hattempt, hgood⟩ := hzero.mp h
      rw [connect_attempted strerror p.errno t hattempt, if_pos hgood] at hsock
      exact absurd hsock (by simp [INVALID_SOCKET])
    · obtain ⟨fd, hattempt, hgood, hfd⟩ := connect_returned strerror p.network p.errno t hsock
      simp only [hfd]
      refine .opened fd (Int.natCast_nonneg fd) ?_ fun h => ?_
      · rw [hzero]
        constructor
        · intro h
          obtain rfl : fd = 0 := Int.ofNat.inj h
          exact ⟨hattempt, hgood⟩
        · rintro ⟨hattempt', -⟩
          exact congrArg Int.ofNat (Reply.value.inj (hattempt.1.symm.trans hattempt'.1))
      · have hret : p.network.socket.ret = fd := by rw [hattempt.1, Reply.ret_value]
        exact hret ▸ h.1

/-! ### Variables that hold a socket

A variable that holds a socket is -1 or a descriptor; 0 counts as one here, though not
everywhere in the code. -/

/-- `close` of a descriptor; of a negative number it only fails. -/
def closeSocket (t : Table) (s : Int) : Table := if s < 0 then t else t.close s

/-- A descriptor, or none. -/
def socketList (s : Int) : List Int := if s = INVALID_SOCKET then [] else [s]

/-- A variable that holds a descriptor or `INVALID_SOCKET`. -/
def SocketVar (s : Int) : Prop := s = INVALID_SOCKET ∨ 0 ≤ s

theorem closeSocket_holds {t : Table} {s : Int} {held : List Int} (hs : SocketVar s)
    (h : t.Holds (socketList s ++ held)) : (closeSocket t s).Holds held := by
  rcases hs with rfl | hpos
  · exact h
  · have hvalid : s ≠ INVALID_SOCKET := by
      rintro rfl
      exact absurd hpos (by decide)
    rw [closeSocket, if_neg (Int.not_lt.mpr hpos)]
    rw [socketList, if_neg hvalid] at h
    exact h.close

theorem natCast_socketVar (fd : Nat) : SocketVar fd := Or.inr (Int.natCast_nonneg fd)

theorem socketList_natCast (fd : Nat) : socketList fd = [(fd : Int)] := by
  simp [socketList, INVALID_SOCKET]

theorem natCast_ne_invalid (fd : Nat) : (fd : Int) ≠ INVALID_SOCKET := by
  rw [INVALID_SOCKET]
  omega

end DroidCam.Connection
