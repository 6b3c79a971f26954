import Mathlib

/-! # The session executor and its backend connections

`SessionExecutor` keeps the session's status flags, charset, collation and session
variables, the connections of an open transaction (`txConns`) and those a keep-session
client keeps across statements (`ksConns`), and its prepared statements. A Go map of
connections is kept as its entries, each `range` over it visiting them in an order of its
own, and every call the executor makes on a pooled connection is appended to a ghost log.

On a failed ping `handleKeepSessionPing` recycles every cached keep-session connection
but leaves them all in `ksConns`; `handleSetAutoCommit(true)` recycles every transaction
connection and closes none, also when its `SetAutoCommit(1)` failed.
-/

namespace Gaea.Server

/-- Modelled from the spec: the status flags `IN_TRANS`, `AUTOCOMMIT` and
`MORE_RESULTS_EXISTS` of `status` (`mysql.ServerStatusInTrans`,
`mysql.ServerStatusAutocommit`, `mysql.ServerMoreResultsExists`), with their values in
the MySQL protocol; the repository's files do not declare them. -/
def serverStatusInTrans : BitVec 16 := 0x0001

def serverStatusAutocommit : BitVec 16 := 0x0002

def serverMoreResultsExists : BitVec 16 := 0x0008

/-- The codes of `mysql.NewDefaultError` the handlers use. -/
inductive ErrCode where
  | errWrongValueForVar
  | errUnknownCharacterSet
  | errVariableIsReadonly
  deriving DecidableEq, Repr

/-- An error a handler returns: `mysql.ErrBadConn`, an error built by `fmt.Errorf` (its
text), one of `mysql.NewDefaultError` (its code and arguments), the limiter's
`mysql.ErrClientQpsLimitedMsg`, `mysql.ErrTxNsChanged`, an error wrapped by
`mysql.NewSessionCloseRespErrorWithErr`, which closes the session once written, or a
`mysql.SessionCloseNoRespError`, which closes it without a write. -/
inductive ExecError where
  | errBadConn
  | text (msg : String)
  | defaultError (code : ErrCode) (args : List String)
  | errClientQpsLimited
  | errTxNsChanged
  | sessionCloseResp (err : ExecError)
  | sessionCloseNoResp (err : ExecError)
  deriving DecidableEq, Repr

/-- A call on a pooled backend connection, the connection kept by its identity. -/
inductive ConnCall where
  | pingWithTimeout (conn : Nat)
  | close (conn : Nat)
  | recycle (conn : Nat)
  | setAutoCommit (conn : Nat) (value : Nat)
  deriving DecidableEq, Repr

/-- Go's `strings.TrimRight(sql, ";")`. -/
def trimRight (sql : String) : String :=
  ⟨(sql.data.reverse.dropWhile (· = ';')).reverse⟩

/-- A prepared statement: its id, its SQL, what `CalcParams` computed from the SQL, and
its column count. -/
structure Stmt where
  id : UInt32
  sql : String
  paramCount : Nat
  offsets : List Nat
  sqlItems : List String
  columnCount : Nat
  deriving DecidableEq, Repr

/-- The fields of a `SessionExecutor` the modelled handlers read and write. `connCalls`
is ghost state: every call made on a pooled connection, in order. -/
structure SessionExecutor where
  status : BitVec 16
  charset : String
  collation : Nat
  sessionVariables : List (String × String)
  txConns : List (String × Nat)
  ksConns : List (String × Nat)
  stmts : UInt32 → Option Stmt
  stmtID : UInt32
  connCalls : List ConnCall

/-! ### Status flags -/

theorem flag_and_not_and_self (s m : BitVec 16) : s &&& ~~~m &&& m = 0#16 := by
  apply BitVec.eq_of_getLsbD_eq
  intro i
  simp [BitVec.getLsbD_and, BitVec.getLsbD_not]

theorem flag_or_and_self (s m : BitVec 16) : (s ||| m) &&& m = m := by
  apply BitVec.eq_of_getLsbD_eq
  intro i
  simp only [BitVec.getLsbD_and, BitVec.getLsbD_or]
  cases s.getLsbD i <;> cases m.getLsbD i <;> rfl

/-- Clearing a flag keeps a flag set that shares no bit with it. -/
theorem flag_or_and_not_and {a b : BitVec 16} (hab : a &&& b = 0#16) (s : BitVec 16) :
    (s ||| a) &&& ~~~b &&& a = a := by
  apply BitVec.eq_of_getLsbD_eq
  intro i
  have hbit := congrArg (BitVec.getLsbD · i) hab
  simp only [BitVec.getLsbD_and, BitVec.getLsbD_or, BitVec.getLsbD_not, BitVec.getLsbD_zero]
    at hbit ⊢
  cases ha : a.getLsbD i <;> cases hb : b.getLsbD i <;> simp_all

/-! ### `handleKeepSessionPing` -/

/-- The first loop of `handleKeepSessionPing`: ping the connections in range order
until one fails, and close that one; `true` when one failed. -/
def pingKsConns (ping : Nat → Bool) : List (String × Nat) → List ConnCall × Bool
  | [] => ([], false)
  | (_, conn) :: rest =>
      if ping conn then
        ((.pingWithTimeout conn) :: (pingKsConns ping rest).1, (pingKsConns ping rest).2)
      else ([.pingWithTimeout conn, .close conn], true)

/-- The second loop: close each connection inside a transaction, and recycle it. -/
def recycleKsConns (inTransaction : Bool) : List (String × Nat) → List ConnCall
  | [] => []
  | (_, conn) :: rest =>
      (if inTransaction then [.close conn, .recycle conn] else [.recycle conn]) ++
        recycleKsConns inTransaction rest

/-- An order in which a `range` over a Go map may visit its entries: any permutation of them.
Each `range` picks its own. -/
def RangeOrder (entries : List (String × Nat)) : Type :=
  { order : List (String × Nat) // order.Perm entries }

namespace SessionExecutor

/-- `handleKeepSessionPing`, where `ping` is the outcome of `PingWithTimeout` on each
connection, `inTransaction` what `isInTransaction()` returns, and `pingOrder` and
`recycleOrder` the orders in which its two loops range over `ksConns`. -/
def handleKeepSessionPing (se : SessionExecutor) (ping : Nat → Bool) (inTransaction : Bool)
    (pingOrder recycleOrder : RangeOrder se.ksConns) : SessionExecutor × Option ExecError :=
  if (pingKsConns ping pingOrder.1).2 then
    ({ se with connCalls := se.connCalls ++ (pingKsConns ping pingOrder.1).1 ++
        recycleKsConns inTransaction recycleOrder.1 }, some .errBadConn)
  else ({ se with connCalls := se.connCalls ++ (pingKsConns ping pingOrder.1).1 }, none)

end SessionExecutor

/-- When a ping fails, the pings before it succeeded, and the first loop pinged them,
then pinged and closed the failing connection. -/
theorem pingKsConns_of_failed {ping : Nat → Bool} :
    ∀ {conns : List (String × Nat)}, (pingKsConns ping conns).2 = true →
      ∃ pre slice conn post, conns = pre ++ (slice, conn) :: post ∧ (∀ e ∈ pre, ping e.2 = true) ∧
        ping conn = false ∧
        (pingKsConns ping conns).1 =
          pre.map (fun e => .pingWithTimeout e.2) ++ [.pingWithTimeout conn, .close conn]
  | [], h => nomatch h
  | (slice, conn) :: rest, h => by
      cases hping : ping conn
      · refine ⟨[], slice, conn, rest, rfl, fun _ h => absurd h (List.not_mem_nil _), hping, ?_⟩
        simp [pingKsConns, hping]
      · simp only [pingKsConns, hping, if_true] at h ⊢
        obtain ⟨pre, slice', conn', post, rfl, hpre, hfail, hcalls⟩ := pingKsConns_of_failed h
        refine ⟨(slice, conn) :: pre, slice', conn', post, rfl, ?_, hfail, by simp [hcalls]⟩
        simpa [hping] using hpre

/-- When `handleKeepSessionPing` returns an error, a ping failed and that connection was
closed, every cached connection was then recycled once (closed first inside a
transaction), in whatever order the second `range` took, and `ksConns` still holds all of
them. -/
theorem handleKeepSessionPing_error_keeps_recycled_conns {se se' : SessionExecutor}
    {ping : Nat → Bool} {inTransaction : Bool} {pingOrder recycleOrder : RangeOrder se.ksConns}
    {err : ExecError}
    (h : se.handleKeepSessionPing ping inTransaction pingOrder recycleOrder = (se', some err)) :
    err = .errBadConn ∧ se'.ksConns = se.ksConns ∧
      ∃ pre slice conn post, pingOrder.1 = pre ++ (slice, conn) :: post ∧
        (∀ e ∈ pre, ping e.2 = true) ∧ ping conn = false ∧
        se'.connCalls = se.connCalls ++ pre.map (fun e => .pingWithTimeout e.2) ++
          [.pingWithTimeout conn, .close conn] ++ recycleKsConns inTransaction recycleOrder.1 ∧
        recycleOrder.1.Perm se.ksConns := by
  unfold SessionExecutor.handleKeepSessionPing at h
  split at h
  next hfailed =>
    cases h
    obtain ⟨pre, slice, conn, post, hconns, hpre, hfail, hcalls⟩ := pingKsConns_of_failed hfailed
    refine ⟨rfl, rfl, pre, slice, conn, post, hconns, hpre, hfail, ?_, recycleOrder.2⟩
    simp only [hcalls, List.append_assoc]
  next => cases h

theorem handleKeepSessionPing_keeps_conn_after_failed_ping :
    ∃ se se', se = (⟨0, "", 0, [], [], [("slice-0", 7)], fun _ => none, 0, []⟩ : SessionExecutor) ∧
      se.handleKeepSessionPing (fun _ => false) false ⟨se.ksConns, .refl _⟩ ⟨se.ksConns, .refl _⟩ =
        (se', some .errBadConn) ∧
      se'.ksConns = se.ksConns :=
  ⟨_, _, rfl, rfl, (@handleKeepSessionPing_error_keeps_recycled_conns _ _ (fun _ => false) false
    ⟨[("slice-0", 7)], .refl _⟩ ⟨[("slice-0", 7)], .refl _⟩ _ rfl).2.1⟩

/-! ### `handleSetAutoCommit` -/

/-- The loop of `handleSetAutoCommit(true)` over `txConns`: `SetAutoCommit(1)` on each
connection, then `Recycle`; the error is that of the last call that failed. -/
def setAutoCommitTxConns (setAutoCommit : Nat → Option String) :
    List (String × Nat) → Option ExecError → List ConnCall × Option ExecError
  | [], err => ([], err)
  | (_, pc) :: rest, err =>
      let err := match setAutoCommit pc with
        | some e => some (.text ("set autocommit error, " ++ e))
        | none => err
      (.setAutoCommit pc 1 :: .recycle pc :: (setAutoCommitTxConns setAutoCommit rest err).1,
        (setAutoCommitTxConns setAutoCommit rest err).2)

namespace SessionExecutor

/-- `handleSetAutoCommit(autocommit)`, where `setAutoCommit pc` is the error text of
`pc.SetAutoCommit(1)`, `none` when it succeeds. -/
def handleSetAutoCommit (se : SessionExecutor) (setAutoCommit : Nat → Option String)
    (autocommit : Bool) : SessionExecutor × Option ExecError :=
  if autocommit then
    let status := se.status ||| serverStatusAutocommit
    let status := if 0 < status &&& serverStatusInTrans then status &&& ~~~serverStatusInTrans
      else status
    ({ se with
        status := status
        txConns := []
        connCalls := se.connCalls ++ (setAutoCommitTxConns setAutoCommit se.txConns none).1 },
      (setAutoCommitTxConns setAutoCommit se.txConns none).2)
  else ({ se with status := se.status &&& ~~~serverStatusAutocommit }, none)

end SessionExecutor

theorem setAutoCommitTxConns_calls (setAutoCommit : Nat → Option String) :
    ∀ (conns : List (String × Nat)) (err : Option ExecError),
      (setAutoCommitTxConns setAutoCommit conns err).1 =
        conns.flatMap fun e => [.setAutoCommit e.2 1, .recycle e.2]
  | [], _ => rfl
  | (_, pc) :: rest, _ => by
      simp [setAutoCommitTxConns, setAutoCommitTxConns_calls setAutoCommit rest]

theorem setAutoCommitTxConns_error (setAutoCommit : Nat → Option String) :
    ∀ (conns : List (String × Nat)) (err : Option ExecError),
      (setAutoCommitTxConns setAutoCommit conns err).2.isSome ↔
        err.isSome ∨ ∃ e ∈ conns, (setAutoCommit e.2).isSome
  | [], _ => by simp [setAutoCommitTxConns]
  | (slice, pc) :: rest, err => by
      simp only [setAutoCommitTxConns, setAutoCommitTxConns_error setAutoCommit rest,
        List.mem_cons, exists_eq_or_imp]
      cases setAutoCommit pc <;> simp

/-- The flags `handleSetAutoCommit(true)` leaves: `IN_TRANS` clear, `AUTOCOMMIT` set. -/
theorem handleSetAutoCommit_status (se : SessionExecutor) (setAutoCommit : Nat → Option String) :
    (se.handleSetAutoCommit setAutoCommit true).1.status &&& serverStatusInTrans = 0 ∧
      (se.handleSetAutoCommit setAutoCommit true).1.status &&& serverStatusAutocommit =
        serverStatusAutocommit := by
  simp only [SessionExecutor.handleSetAutoCommit, if_true]
  split
  · exact ⟨flag_and_not_and_self _ _, flag_or_and_not_and (by decide) _⟩
  next hclear =>
    refine ⟨?_, flag_or_and_self _ _⟩
    apply BitVec.eq_of_toNat_eq
    have := BitVec.lt_def.not.mp hclear
    simp only [BitVec.ofNat_eq_ofNat, BitVec.toNat_ofNat, Nat.zero_mod] at this ⊢
    omega

/-- `handleSetAutoCommit(true)` empties `txConns`, clears `IN_TRANS` and sets
`AUTOCOMMIT`, runs `SetAutoCommit(1)` then `Recycle` on each transaction connection and
closes none of them, also those whose `SetAutoCommit(1)` failed; it returns an error
exactly when one failed. -/
theorem handleSetAutoCommit_recycles_without_close (se : SessionExecutor)
    (setAutoCommit : Nat → Option String) :
    (se.handleSetAutoCommit setAutoCommit true).1.txConns = [] ∧
      (se.handleSetAutoCommit setAutoCommit true).1.status &&& serverStatusInTrans = 0 ∧
      (se.handleSetAutoCommit setAutoCommit true).1.status &&& serverStatusAutocommit =
        serverStatusAutocommit ∧
      (se.handleSetAutoCommit setAutoCommit true).1.connCalls =
        se.connCalls ++ se.txConns.flatMap (fun e => [.setAutoCommit e.2 1, .recycle e.2]) ∧
      ((se.handleSetAutoCommit setAutoCommit true).2.isSome ↔
        ∃ e ∈ se.txConns, (setAutoCommit e.2).isSome) := by
  obtain ⟨hintrans, hautocommit⟩ := handleSetAutoCommit_status se setAutoCommit
  refine ⟨rfl, hintrans, hautocommit, ?_, ?_⟩
  · simp only [SessionExecutor.handleSetAutoCommit, if_true, setAutoCommitTxConns_calls]
  · simp [SessionExecutor.handleSetAutoCommit, setAutoCommitTxConns_error]

end Gaea.Server
