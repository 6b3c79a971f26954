import GaeaProxy.Server.Executor

/-! # Queries and multi-statement queries

`handleQuery` trims the SQL, applies the namespace's QPS limiter and, when the namespace
allows several statements and the client negotiated `CLIENT_MULTI_STATEMENTS`, hands the
SQL to `doMultiStmts`. That splits it into pieces and runs them one after another with
`doQuery`; the result of every piece but the last is written at once with
`MORE_RESULTS_EXISTS` set, and the last goes back to the caller's write path. The first
failing piece, or the first failing write, ends the request.

`SplitStatementToPieces`, `doQuery` and the writes reach the parser, the backends and the
network, so each is a parameter: the `index`-th `doQuery` call of a request and the write
after the `index`-th piece each get their own answer. A result set is kept by its
identity, `none` standing for nil. Before it splits, `doMultiStmts` recycles the read
packet and sets the guard bit that tells `Run` not to recycle it again.
-/

namespace Gaea.Server

/-- Modelled from the spec: `mysql.ClientMultiStatements`, the capability flag of
multi-statement queries, with its value in the MySQL protocol. -/
def clientMultiStatements : UInt32 := 0x00010000

/-- A call on the client connection's read buffer: `ReadEphemeralPacket` returning a
packet, or `RecycleReadPacket`. -/
inductive PacketCall where
  | read
  | recycle
  deriving DecidableEq, Repr

/-- Modelled from the spec: a response, as `CreateResultResponse(status, r, isBinary)` and
`CreateErrorResponse(status, err)` build it, or the response another command's handler
builds, kept by its identity. -/
inductive Response where
  | result (status : BitVec 16) (r : Option Nat) (isBinary : Bool)
  | error (status : BitVec 16) (err : ExecError)
  | other (id : Nat)
  deriving DecidableEq, Repr

/-- Modelled from the spec: `CreateResultResponse`. -/
def createResultResponse (status : BitVec 16) (r : Option Nat) (isBinary : Bool) : Response :=
  .result status r isBinary

/-- Modelled from the spec: `CreateErrorResponse`. -/
def createErrorResponse (status : BitVec 16) (err : ExecError) : Response :=
  .error status err

/-- The client side of a session: the capability flags the client negotiated, the guard
bit of the read packet, and the session's `closed` flag. `packetCalls` and `written` are
ghost state: the calls on the read buffer and the responses handed to `writeResponse`, in
order. -/
structure ClientConn where
  capability : UInt32
  hasRecycledReadPacket : Bool
  closed : Bool
  packetCalls : List PacketCall
  written : List Response

namespace ClientConn

/-- `hasRecycledReadPacket.CompareAndSwap(old, new)`: whether it swapped. -/
def compareAndSwap (c : ClientConn) (old new : Bool) : Bool × ClientConn :=
  if c.hasRecycledReadPacket = old then (true, { c with hasRecycledReadPacket := new })
  else (false, c)

def recycleReadPacket (c : ClientConn) : ClientConn :=
  { c with packetCalls := c.packetCalls ++ [.recycle] }

/-- `Session.writeResponse(r)`, logged; whether it fails is the caller's parameter. -/
def writeResponse (c : ClientConn) (r : Response) : ClientConn :=
  { c with written := c.written ++ [r] }

/-- `Session.Close`. The rollback and the release of keep-session connections it also
makes are not modelled. -/
def close (c : ClientConn) : ClientConn :=
  { c with closed := true }

@[simp] theorem compareAndSwap_written (c : ClientConn) (old new : Bool) :
    (c.compareAndSwap old new).2.written = c.written := by
  unfold compareAndSwap
  split <;> rfl

@[simp] theorem recycleReadPacket_written (c : ClientConn) : c.recycleReadPacket.written = c.written :=
  rfl

@[simp] theorem writeResponse_with_written (c : ClientConn) (r : Response) (w : List Response) :
    { c.writeResponse r with written := w } = { c with written := w } :=
  rfl

end ClientConn

/-- What a query meets outside the executor: `doQuery` for the `index`-th query of the
request (the executor after it, its result set and its error), and the error of the
write after the `index`-th piece. -/
structure QueryEnv where
  doQuery : Nat → SessionExecutor → String → SessionExecutor × Option Nat × Option ExecError
  writeResponse : Nat → Option ExecError

/-- The namespace settings `handleQuery` reads. -/
structure QuerySettings where
  clientQPSLimit : Int
  supportLimitTx : Bool
  supportMultiQuery : Bool

/-- Whether `handleQuery` passes its SQL to `doMultiStmts`: the limiter lets the query
through, and the namespace and the client both allow several statements. -/
def QuerySettings.callsDoMultiStmts (ns : QuerySettings) (c : ClientConn) (inTransaction allow : Bool) : Bool :=
  !(ns.clientQPSLimit > 0 && ns.supportLimitTx && !allow) &&
    !(ns.clientQPSLimit > 0 && !ns.supportLimitTx && !inTransaction && !allow) &&
    (ns.supportMultiQuery && c.capability &&& clientMultiStatements != 0)

namespace SessionExecutor

/-- The `for index, piece := range piecesSql` loop of `doMultiStmts` from `index` on,
where `r` is the last result set. -/
def multiStmtsLoop (env : QueryEnv) (stmtsNum : Nat) :
    Nat → List String → SessionExecutor → ClientConn → Option Nat →
      SessionExecutor × ClientConn × Option Nat × Option ExecError
  | _, [], se, c, r => (se, c, r, none)
  | index, piece :: pieces, se, c, _ =>
      match env.doQuery index se piece with
      | (se, _, some errRet) => (se, c, none, some errRet)
      | (se, r, none) =>
          if index < stmtsNum - 1 then
            let c := c.writeResponse
              (createResultResponse (se.status ||| serverMoreResultsExists) r false)
            match env.writeResponse index with
            | some err => (se, c.close, r, some err)
            | none => multiStmtsLoop env stmtsNum (index + 1) pieces se c r
          else multiStmtsLoop env stmtsNum (index + 1) pieces se c r

/-- `doMultiStmts(reqCtx, sql)`: the executor and connection after it, and its result set
and error. -/
def doMultiStmts (se : SessionExecutor) (c : ClientConn)
    (splitStatementToPieces : String → Except ExecError (List String)) (env : QueryEnv)
    (sql : String) : SessionExecutor × ClientConn × Option Nat × Option ExecError :=
  let (swapped, c) := c.compareAndSwap false true
  let c := if swapped then c.recycleReadPacket else c
  match splitStatementToPieces sql with
  | .error err => (se, c, none, some err)
  | .ok piecesSql =>
      if piecesSql.length = 1 then
        let (se, r, err) := env.doQuery 0 se sql
        (se, c, r, err)
      else multiStmtsLoop env piecesSql.length 0 piecesSql se c none

/-- `handleQuery(sql)`, where `inTransaction` is what `isInTransaction()` returns and
`allow` what `limiter.Allow()` returns; each branch calls the limiter at most once. The
metrics it records are not modelled. -/
def handleQuery (se : SessionExecutor) (c : ClientConn) (ns : QuerySettings)
    (inTransaction allow : Bool) (splitStatementToPieces : String → Except ExecError (List String))
    (env : QueryEnv) (sql : String) : SessionExecutor × ClientConn × Option Nat × Option ExecError :=
  let sql := trimRight sql
  if ns.clientQPSLimit > 0 && ns.supportLimitTx && !allow then
    (se, c, none,
      some (if inTransaction then .sessionCloseResp .errClientQpsLimited else .errClientQpsLimited))
  else if ns.clientQPSLimit > 0 && !ns.supportLimitTx && !inTransaction && !allow then
    (se, c, none, some .errClientQpsLimited)
  else if ns.supportMultiQuery && c.capability &&& clientMultiStatements != 0 then
    se.doMultiStmts c splitStatementToPieces env sql
  else
    let (se, r, err) := env.doQuery 0 se sql
    (se, c, r, err)

end SessionExecutor

/-! ### Pieces run until the first failure -/

/-- The pieces run one after another from `se` until one fails: the executor after each
piece that succeeded with its result set, and the executor after the failing piece with
its error. -/
def runPieces
    (doQuery : Nat → SessionExecutor → String → SessionExecutor × Option Nat × Option ExecError) :
    Nat → SessionExecutor → List String →
      List (SessionExecutor × Option Nat) × Option (SessionExecutor × ExecError)
  | _, _, [] => ([], none)
  | index, se, piece :: pieces =>
      match doQuery index se piece with
      | (se, _, some err) => ([], some (se, err))
      | (se, r, none) =>
          ((se, r) :: (runPieces doQuery (index + 1) se pieces).1,
            (runPieces doQuery (index + 1) se pieces).2)

/-- The response written for a piece that succeeded: its result set, with the status of
the executor after it and `MORE_RESULTS_EXISTS`. -/
def moreResultsResponse (done : SessionExecutor × Option Nat) : Response :=
  createResultResponse (done.1.status ||| serverMoreResultsExists) done.2 false

section runPieces

variable {doQuery : Nat → SessionExecutor → String → SessionExecutor × Option Nat × Option ExecError}

theorem runPieces_cons_of_ok {index : Nat} {se se' : SessionExecutor} {piece : String}
    {pieces : List String} {r : Option Nat} (hq : doQuery index se piece = (se', r, none)) :
    runPieces doQuery index se (piece :: pieces) =
      ((se', r) :: (runPieces doQuery (index + 1) se' pieces).1,
        (runPieces doQuery (index + 1) se' pieces).2) := by
  simp [runPieces, hq]

theorem runPieces_cons_of_error {index : Nat} {se se' : SessionExecutor} {piece : String}
    {pieces : List String} {r : Option Nat} {err : ExecError}
    (hq : doQuery index se piece = (se', r, some err)) :
    runPieces doQuery index se (piece :: pieces) = ([], some (se', err)) := by
  simp [runPieces, hq]

theorem runPieces_length_of_none :
    ∀ {pieces : List String} {index : Nat} {se : SessionExecutor},
      (runPieces doQuery index se pieces).2 = none →
        (runPieces doQuery index se pieces).1.length = pieces.length
  | [], _, _, _ => rfl
  | piece :: pieces, index, se, h => by
      rcases hq : doQuery index se piece with ⟨se', r, _ | err⟩
      · simp only [runPieces, hq] at h ⊢
        simp [runPieces_length_of_none h]
      · simp [runPieces, hq] at h

theorem runPieces_length_of_some :
    ∀ {pieces : List String} {index : Nat} {se seK : SessionExecutor} {err : ExecError},
      (runPieces doQuery index se pieces).2 = some (seK, err) →
        (runPieces doQuery index se pieces).1.length < pieces.length
  | [], _, _, _, _, h => by simp [runPieces] at h
  | piece :: pieces, index, se, _, _, h => by
      rcases hq : doQuery index se piece with ⟨se', r, _ | err⟩
      · simp only [runPieces, hq] at h ⊢
        simp [runPieces_length_of_some h]
      · simp [runPieces, hq]

end runPieces

namespace SessionExecutor

section multiStmtsLoop

variable {env : QueryEnv} {stmtsNum index : Nat} {piece : String} {pieces : List String}
  {se se' : SessionExecutor} {c : ClientConn} {r r' : Option Nat}

theorem multiStmtsLoop_cons_of_error {e : ExecError} (hq : env.doQuery index se piece = (se', r', some e)) :
    multiStmtsLoop env stmtsNum index (piece :: pieces) se c r = (se', c, none, some e) := by
  simp [multiStmtsLoop, hq]

/-- A piece that succeeds and is not the last has its result written. -/
theorem multiStmtsLoop_cons_of_write (hq : env.doQuery index se piece = (se', r', none))
    (hidx : index < stmtsNum - 1) (hwrite : env.writeResponse index = none) :
    multiStmtsLoop env stmtsNum index (piece :: pieces) se c r =
      multiStmtsLoop env stmtsNum (index + 1) pieces se'
        (c.writeResponse (moreResultsResponse (se', r'))) r' := by
  simp [multiStmtsLoop, hq, hidx, hwrite, moreResultsResponse]

theorem multiStmtsLoop_cons_of_last (hq : env.doQuery index se piece = (se', r', none))
    (hidx : ¬ index < stmtsNum - 1) :
    multiStmtsLoop env stmtsNum index (piece :: pieces) se c r =
      multiStmtsLoop env stmtsNum (index + 1) pieces se' c r' := by
  simp [multiStmtsLoop, hq, hidx]

end multiStmtsLoop

section runLoop

variable {env : QueryEnv} {stmtsNum : Nat}

/-- The writes after the pieces that succeeded, from `index` on, all succeed. -/
theorem writes_tail {index : Nat} {se' : SessionExecutor} {r' : Option Nat}
    {rest : List (SessionExecutor × Option Nat)}
    (hwrite : ∀ j < ((se', r') :: rest).length, index + j < stmtsNum - 1 →
      env.writeResponse (index + j) = none) :
    ∀ j < rest.length, index + 1 + j < stmtsNum - 1 → env.writeResponse (index + 1 + j) = none :=
  fun j hj hlt => by
    have h := hwrite (j + 1) (by simpa using hj) (by omega)
    rwa [← Nat.add_assoc, Nat.add_right_comm] at h

/-- With every write after a piece succeeding, a failing piece ends the loop with its
error, after one response for each piece before it. -/
theorem multiStmtsLoop_of_failure {seK : SessionExecutor} {err : ExecError} :
    ∀ (pieces : List String) (index : Nat) (se : SessionExecutor) (c : ClientConn) (r : Option Nat),
      index + pieces.length = stmtsNum →
      (∀ j < (runPieces env.doQuery index se pieces).1.length, index + j < stmtsNum - 1 →
        env.writeResponse (index + j) = none) →
      (runPieces env.doQuery index se pieces).2 = some (seK, err) →
      multiStmtsLoop env stmtsNum index pieces se c r =
        (seK, { c with written := c.written ++
          (runPieces env.doQuery index se pieces).1.map moreResultsResponse }, none, some err)
  | [], _, _, _, _, _, _, h => by simp [runPieces] at h
  | piece :: pieces, index, se, c, r, hlen, hwrite, h => by
      simp only [List.length_cons] at hlen
      rcases hq : env.doQuery index se piece with ⟨se', r', _ | e⟩
      · rw [runPieces_cons_of_ok hq] at h hwrite ⊢
        -- a later piece fails, so this one is not the last
        have hidx : index < stmtsNum - 1 := by
          have := runPieces_length_of_some h
          omega
        rw [multiStmtsLoop_cons_of_write hq hidx (hwrite 0 (by simp) hidx),
          multiStmtsLoop_of_failure pieces (index + 1) se' _ r' (by omega) (writes_tail hwrite) h]
        simp [ClientConn.writeResponse]
      · rw [runPieces_cons_of_error hq] at h ⊢
        cases h
        simp [multiStmtsLoop_cons_of_error hq]

/-- With every write after a piece succeeding and every piece succeeding, the loop
returns the last piece's result set, after one response for each piece but the last. -/
theorem multiStmtsLoop_of_success :
    ∀ (pieces : List String) (index : Nat) (se : SessionExecutor) (c : ClientConn) (r : Option Nat),
      index + pieces.length = stmtsNum →
      (∀ j < (runPieces env.doQuery index se pieces).1.length, index + j < stmtsNum - 1 →
        env.writeResponse (index + j) = none) →
      (runPieces env.doQuery index se pieces).2 = none →
      multiStmtsLoop env stmtsNum index pieces se c r =
        (((runPieces env.doQuery index se pieces).1.getLast?.map Prod.fst).getD se,
          { c with written := c.written ++
            (runPieces env.doQuery index se pieces).1.dropLast.map moreResultsResponse },
          ((runPieces env.doQuery index se pieces).1.getLast?.map Prod.snd).getD r, none)
  | [], _, _, c, _, _, _, _ => by simp [multiStmtsLoop, runPieces]
  | piece :: pieces, index, se, c, r, hlen, hwrite, h => by
      simp only [List.length_cons] at hlen
      rcases hq : env.doQuery index se piece with ⟨se', r', _ | e⟩
      · rw [runPieces_cons_of_ok hq] at h hwrite ⊢
        by_cases hidx : index < stmtsNum - 1
        · -- a piece follows: this result is written
          have hne : (runPieces env.doQuery (index + 1) se' pieces).1 ≠ [] := by
            intro hnil
            have := runPieces_length_of_none h
            rw [hnil] at this
            simp at this
            omega
          rw [multiStmtsLoop_cons_of_write hq hidx (hwrite 0 (by simp) hidx),
            multiStmtsLoop_of_success pieces (index + 1) se' _ r' (by omega) (writes_tail hwrite) h,
            List.getLast?_eq_getLast _ hne, List.dropLast_cons_of_ne_nil hne,
            List.getLast?_cons, List.getLast?_eq_getLast _ hne]
          simp [ClientConn.writeResponse]
        · -- the last piece: no response is written
          have hnil : pieces = [] := List.eq_nil_of_length_eq_zero (by omega)
          subst hnil
          rw [multiStmtsLoop_cons_of_last hq hidx]
          simp [multiStmtsLoop, runPieces]
      · rw [runPieces_cons_of_error hq] at h
        cases h

/-- The first failing write, after the `j`-th piece, closes the session and ends the loop
with that piece's result set and the write's error, after `j + 1` responses. -/
theorem multiStmtsLoop_of_write_failure {err : ExecError} :
    ∀ (pieces : List String) (index : Nat) (se : SessionExecutor) (c : ClientConn) (r : Option Nat)
      (j : Nat) (done : SessionExecutor × Option Nat),
      index + j < stmtsNum - 1 →
      (∀ i < j, env.writeResponse (index + i) = none) →
      env.writeResponse (index + j) = some err →
      (runPieces env.doQuery index se pieces).1[j]? = some done →
      multiStmtsLoop env stmtsNum index pieces se c r =
        (done.1,
          { c with
            written := c.written ++
              ((runPieces env.doQuery index se pieces).1.take (j + 1)).map moreResultsResponse
            closed := true },
          done.2, some err)
  | [], _, _, _, _, _, _, _, _, _, h => by simp [runPieces] at h
  | piece :: pieces, index, se, c, r, j, done, hidx, hbefore, hfail, h => by
      rcases hq : env.doQuery index se piece with ⟨se', r', _ | e⟩
      · rw [runPieces_cons_of_ok hq] at h ⊢
        cases j with
        | zero =>
            -- the write after this piece fails
            simp only [List.getElem?_cons_zero, Option.some.injEq] at h
            simp only [Nat.add_zero] at hidx hfail
            subst h
            simp [multiStmtsLoop, hq, show index < stmtsNum - 1 by omega, hfail,
              ClientConn.writeResponse, ClientConn.close, moreResultsResponse]
        | succ j =>
            have hw : env.writeResponse index = none := hbefore 0 (Nat.succ_pos _)
            rw [multiStmtsLoop_cons_of_write hq (by omega) hw,
              multiStmtsLoop_of_write_failure pieces (index + 1) se' _ r' j done (by omega)
                (fun i hi => by simpa [Nat.add_assoc, Nat.add_comm 1 i] using hbefore (i + 1) (by omega))
                (by simpa [Nat.add_assoc, Nat.add_comm 1 j] using hfail) (by simpa using h)]
            simp [ClientConn.writeResponse]
      · rw [runPieces_cons_of_error hq] at h
        simp at h

end runLoop

/-- Past its early recycle, which writes nothing, `doMultiStmts` of two pieces or more is
its loop. -/
theorem doMultiStmts_eq_multiStmtsLoop
    {splitStatementToPieces : String → Except ExecError (List String)} {env : QueryEnv}
    {sql : String} {pieces : List String} (se : SessionExecutor) (c : ClientConn)
    (hsplit : splitStatementToPieces sql = .ok pieces) (hn : pieces.length ≠ 1) :
    ∃ c' : ClientConn, c'.written = c.written ∧
      se.doMultiStmts c splitStatementToPieces env sql =
        multiStmtsLoop env pieces.length 0 pieces se c' none := by
  cases hflag : c.hasRecycledReadPacket
  · exact ⟨{ c with hasRecycledReadPacket := true }.recycleReadPacket, rfl,
      by simp [doMultiStmts, ClientConn.compareAndSwap, hflag, hsplit, hn]⟩
  · exact ⟨c, rfl, by simp [doMultiStmts, ClientConn.compareAndSwap, hflag, hsplit, hn]⟩

/-- A request split into `n ≥ 2` pieces runs them in order until the first failure. When
the write after the `j`-th piece is the first to fail, the session is closed and the
request returns that piece's result set with the write's error, after `j + 1` responses.
When every write succeeds and piece `k` fails, the `k - 1` pieces before it have their
responses written in order, and the request returns piece `k`'s error and the executor
after it; when all pieces succeed, every piece but the `n`-th has its response written,
and the request returns the `n`-th piece's result set, unwritten, and the executor after
it. -/
theorem doMultiStmts_stops_at_first_failure
    {splitStatementToPieces : String → Except ExecError (List String)} {env : QueryEnv}
    {sql : String} {pieces : List String} (se : SessionExecutor) (c : ClientConn)
    (hsplit : splitStatementToPieces sql = .ok pieces) (hn : 2 ≤ pieces.length) :
    (∀ j err done, j < pieces.length - 1 → (∀ i < j, env.writeResponse i = none) →
      env.writeResponse j = some err →
      (runPieces env.doQuery 0 se pieces).1[j]? = some done →
      (se.doMultiStmts c splitStatementToPieces env sql).2.1.written =
        c.written ++ ((runPieces env.doQuery 0 se pieces).1.take (j + 1)).map moreResultsResponse ∧
      (se.doMultiStmts c splitStatementToPieces env sql).2.1.closed = true ∧
      (se.doMultiStmts c splitStatementToPieces env sql).1 = done.1 ∧
      (se.doMultiStmts c splitStatementToPieces env sql).2.2 = (done.2, some err)) ∧
    ((∀ j < (runPieces env.doQuery 0 se pieces).1.length, j < pieces.length - 1 →
        env.writeResponse j = none) →
      (∀ seK err, (runPieces env.doQuery 0 se pieces).2 = some (seK, err) →
        (runPieces env.doQuery 0 se pieces).1.length < pieces.length ∧
        (se.doMultiStmts c splitStatementToPieces env sql).2.1.written =
          c.written ++ (runPieces env.doQuery 0 se pieces).1.map moreResultsResponse ∧
        (se.doMultiStmts c splitStatementToPieces env sql).1 = seK ∧
        (se.doMultiStmts c splitStatementToPieces env sql).2.2 = (none, some err)) ∧
      ((runPieces env.doQuery 0 se pieces).2 = none →
        (runPieces env.doQuery 0 se pieces).1.length = pieces.length ∧
        (se.doMultiStmts c splitStatementToPieces env sql).2.1.written =
          c.written ++ (runPieces env.doQuery 0 se pieces).1.dropLast.map moreResultsResponse ∧
        (runPieces env.doQuery 0 se pieces).1.getLast? =
          some ((se.doMultiStmts c splitStatementToPieces env sql).1,
            (se.doMultiStmts c splitStatementToPieces env sql).2.2.1) ∧
        (se.doMultiStmts c splitStatementToPieces env sql).2.2.2 = none)) := by
  obtain ⟨c', hc', hloop⟩ := doMultiStmts_eq_multiStmtsLoop se c hsplit (by omega)
  rw [hloop]
  refine ⟨fun j err done hj hbefore hfail hdone => ?_, fun hwrite => ⟨fun seK err hpiece => ?_, fun hok => ?_⟩⟩
  · rw [multiStmtsLoop_of_write_failure pieces 0 se c' none j done (by omega)
      (by simpa using hbefore) (by simpa using hfail) hdone]
    exact ⟨by rw [hc'], rfl, rfl, rfl⟩
  · rw [multiStmtsLoop_of_failure pieces 0 se c' none (Nat.zero_add _) (by simpa using hwrite) hpiece]
    exact ⟨runPieces_length_of_some hpiece, by rw [hc'], rfl, rfl⟩
  · have hlen := runPieces_length_of_none hok
    have hne : (runPieces env.doQuery 0 se pieces).1 ≠ [] := by
      intro hnil
      rw [hnil] at hlen
      simp at hlen
      omega
    rw [multiStmtsLoop_of_success pieces 0 se c' none (Nat.zero_add _) (by simpa using hwrite) hok,
      List.getLast?_eq_getLast _ hne]
    exact ⟨hlen, by rw [hc'], rfl, rfl⟩

/-- The spec's scenario: `SELECT 1;SELECT 2` is answered by the first result set, written
with `MORE_RESULTS_EXISTS`, and the second, returned to the caller. -/
theorem doMultiStmts_select_one_select_two :
    ((⟨serverStatusAutocommit, "", 0, [], [], [], fun _ => none, 0, []⟩ : SessionExecutor).doMultiStmts
        ⟨clientMultiStatements, false, false, [.read], []⟩ (fun _ => .ok ["SELECT 1", "SELECT 2"])
        ⟨fun index se _ => (se, some index, none), fun _ => none⟩ "SELECT 1;SELECT 2").2.1.written =
      [createResultResponse (serverStatusAutocommit ||| serverMoreResultsExists) (some 0) false] ∧
    ((⟨serverStatusAutocommit, "", 0, [], [], [], fun _ => none, 0, []⟩ : SessionExecutor).doMultiStmts
        ⟨clientMultiStatements, false, false, [.read], []⟩ (fun _ => .ok ["SELECT 1", "SELECT 2"])
        ⟨fun index se _ => (se, some index, none), fun _ => none⟩ "SELECT 1;SELECT 2").2.2 =
      (some 1, none) := by
  obtain ⟨-, hwritten, hlast, herr⟩ := (@doMultiStmts_stops_at_first_failure
    (fun _ => .ok ["SELECT 1", "SELECT 2"]) ⟨fun index se _ => (se, some index, none), fun _ => none⟩
    "SELECT 1;SELECT 2" ["SELECT 1", "SELECT 2"] ⟨serverStatusAutocommit, "", 0, [], [], [],
      fun _ => none, 0, []⟩ ⟨clientMultiStatements, false, false, [.read], []⟩ rfl (by decide)).2
    (fun _ _ _ => rfl) |>.2 rfl
  exact ⟨hwritten, Prod.ext (Prod.mk.inj (Option.some.inj hlast)).2.symm herr⟩

/-- Three pieces that all succeed, and a write that fails after the first: the request
ends there, with the first piece's result set and the write's error, and the third piece's
result is never returned. -/
theorem doMultiStmts_failed_write_skips_later_pieces :
    ((⟨0, "", 0, [], [], [], fun _ => none, 0, []⟩ : SessionExecutor).doMultiStmts
        ⟨clientMultiStatements, false, false, [.read], []⟩ (fun _ => .ok ["SELECT 1", "SELECT 2", "SELECT 3"])
        ⟨fun index se _ => (se, some index, none), fun index => if index = 0 then some .errBadConn else none⟩
        "SELECT 1;SELECT 2;SELECT 3").2.2 = (some 0, some .errBadConn) ∧
    ((⟨0, "", 0, [], [], [], fun _ => none, 0, []⟩ : SessionExecutor).doMultiStmts
        ⟨clientMultiStatements, false, false, [.read], []⟩ (fun _ => .ok ["SELECT 1", "SELECT 2", "SELECT 3"])
        ⟨fun index se _ => (se, some index, none), fun index => if index = 0 then some .errBadConn else none⟩
        "SELECT 1;SELECT 2;SELECT 3").2.1.written.length = 1 := by
  decide

/-! ### The read packet -/

/-- Neither the loop's writes nor its `Close` touch the read buffer or its guard bit. -/
theorem multiStmtsLoop_readBuffer (env : QueryEnv) (stmtsNum : Nat) :
    ∀ (pieces : List String) (index : Nat) (se : SessionExecutor) (c : ClientConn) (r : Option Nat),
      (multiStmtsLoop env stmtsNum index pieces se c r).2.1.hasRecycledReadPacket =
          c.hasRecycledReadPacket ∧
        (multiStmtsLoop env stmtsNum index pieces se c r).2.1.packetCalls = c.packetCalls
  | [], _, _, _, _ => ⟨rfl, rfl⟩
  | piece :: pieces, index, se, c, r => by
      rcases hq : env.doQuery index se piece with ⟨se', r', _ | e⟩
      · by_cases hidx : index < stmtsNum - 1
        · cases hw : env.writeResponse index with
          | none =>
              rw [multiStmtsLoop_cons_of_write hq hidx hw]
              exact multiStmtsLoop_readBuffer env stmtsNum pieces (index + 1) se' _ r'
          | some err => simp [multiStmtsLoop, hq, hidx, hw, ClientConn.close, ClientConn.writeResponse]
        · rw [multiStmtsLoop_cons_of_last hq hidx]
          exact multiStmtsLoop_readBuffer env stmtsNum pieces (index + 1) se' c r'
      · rw [multiStmtsLoop_cons_of_error hq]
        exact ⟨rfl, rfl⟩

/-- `doMultiStmts` leaves the guard bit up, and recycles the read packet when the bit was
down. -/
theorem doMultiStmts_readBuffer (se : SessionExecutor) (c : ClientConn)
    (splitStatementToPieces : String → Except ExecError (List String)) (env : QueryEnv)
    (sql : String) :
    (se.doMultiStmts c splitStatementToPieces env sql).2.1.hasRecycledReadPacket = true ∧
      (se.doMultiStmts c splitStatementToPieces env sql).2.1.packetCalls =
        c.packetCalls ++ if c.hasRecycledReadPacket then [] else [.recycle] := by
  unfold doMultiStmts ClientConn.compareAndSwap
  cases hc : c.hasRecycledReadPacket <;>
    simp only [hc, if_true, if_false, Bool.false_eq_true, Bool.true_eq_false] <;>
    split <;> (try split) <;>
    simp [multiStmtsLoop_readBuffer, ClientConn.recycleReadPacket, hc]

/-- `handleQuery` touches the read buffer only through `doMultiStmts`. -/
theorem handleQuery_readBuffer (se : SessionExecutor) (c : ClientConn) (ns : QuerySettings)
    (inTransaction allow : Bool) (splitStatementToPieces : String → Except ExecError (List String))
    (env : QueryEnv) (sql : String) :
    (se.handleQuery c ns inTransaction allow splitStatementToPieces env sql).2.1.hasRecycledReadPacket =
        (c.hasRecycledReadPacket || ns.callsDoMultiStmts c inTransaction allow) ∧
      (se.handleQuery c ns inTransaction allow splitStatementToPieces env sql).2.1.packetCalls =
        c.packetCalls ++
          if ns.callsDoMultiStmts c inTransaction allow && !c.hasRecycledReadPacket then [.recycle]
          else [] := by
  obtain ⟨hflag, hcalls⟩ := doMultiStmts_readBuffer se c splitStatementToPieces env (trimRight sql)
  unfold handleQuery QuerySettings.callsDoMultiStmts
  -- the three conditions of `handleQuery`, in its order
  cases (ns.clientQPSLimit > 0 && ns.supportLimitTx && !allow) <;>
    cases (ns.clientQPSLimit > 0 && !ns.supportLimitTx && !inTransaction && !allow) <;>
    cases (ns.supportMultiQuery && c.capability &&& clientMultiStatements != 0) <;>
    cases hc : c.hasRecycledReadPacket <;> simp [hflag, hcalls, hc]

end SessionExecutor

end Gaea.Server
