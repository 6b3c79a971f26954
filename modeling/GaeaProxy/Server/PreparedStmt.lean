import GaeaProxy.Server.Executor

/-! # Prepared statements

`handleStmtPrepare` files each statement under the executor's `stmtID` and increments
it, a `uint32` that wraps; `handleStmtClose` deletes the id in the first four bytes of
its packet. Ids are issued consecutively modulo 2^32 and never checked against the
table: from an empty table, no id is issued twice before 2^32 statements have been
prepared, and after 2^32 the first id comes round again while its statement may still
be open.
-/

namespace Gaea.Server

/-- `binary.LittleEndian.Uint32(data[0:4])`. -/
def littleEndianUint32 (b0 b1 b2 b3 : UInt8) : UInt32 :=
  b0.toUInt32 ||| b1.toUInt32 <<< 8 ||| b2.toUInt32 <<< 16 ||| b3.toUInt32 <<< 24

namespace SessionExecutor

/-- `handleStmtPrepare(sql)`, where `calcParams` is `CalcParams`: the parameter count,
offsets and SQL pieces of the trimmed SQL, or its error. -/
def handleStmtPrepare (se : SessionExecutor)
    (calcParams : String → Except ExecError (Nat × List Nat × List String)) (sql : String) :
    SessionExecutor × Except ExecError Stmt :=
  match calcParams (trimRight sql) with
  | .error e => (se, .error e)
  | .ok (paramCount, offsets, sqlItems) =>
      let stmt : Stmt := ⟨se.stmtID, trimRight sql, paramCount, offsets, sqlItems, 0⟩
      ({ se with stmtID := se.stmtID + 1, stmts := Function.update se.stmts stmt.id (some stmt) },
        .ok stmt)

/-- `handleStmtClose(data)`: a packet shorter than four bytes closes nothing. -/
def handleStmtClose (se : SessionExecutor) : List UInt8 → SessionExecutor
  | b0 :: b1 :: b2 :: b3 :: _ =>
      { se with stmts := Function.update se.stmts (littleEndianUint32 b0 b1 b2 b3) none }
  | _ => se

end SessionExecutor

/-- A call of the prepared-statement protocol on one executor. -/
inductive StmtCall where
  | prepare (sql : String)
  | close (data : List UInt8)
  deriving DecidableEq, Repr

namespace SessionExecutor

def stmtStep (calcParams : String → Except ExecError (Nat × List Nat × List String))
    (se : SessionExecutor) : StmtCall → SessionExecutor
  | .prepare sql => (se.handleStmtPrepare calcParams sql).1
  | .close data => se.handleStmtClose data

def runStmtCalls (calcParams : String → Except ExecError (Nat × List Nat × List String))
    (se : SessionExecutor) : List StmtCall → SessionExecutor
  | [] => se
  | call :: calls => (se.stmtStep calcParams call).runStmtCalls calcParams calls

end SessionExecutor

/-- The prepares among `calls` that `CalcParams` accepts: each takes an id. -/
def preparedCount (calcParams : String → Except ExecError (Nat × List Nat × List String)) :
    List StmtCall → Nat
  | [] => 0
  | .prepare sql :: calls =>
      (if (calcParams (trimRight sql)).toBool then 1 else 0) + preparedCount calcParams calls
  | .close _ :: calls => preparedCount calcParams calls

theorem UInt32.toNat_add_one (a : UInt32) : (a + 1).toNat = (a.toNat + 1) % 2 ^ 32 := by
  show (a.toBitVec + 1#32).toNat = _
  rw [BitVec.toNat_add]
  rfl

/-- After `count` ids were issued from `base`: the next id is `count` past `base`, and
every entry holds the statement of its own id, issued fewer than `count` ids past
`base` (ids wrap at 2^32). -/
structure Issued (base : UInt32) (count : Nat) (se : SessionExecutor) : Prop where
  next : se.stmtID.toNat = (base.toNat + count) % 2 ^ 32
  entries : ∀ id stmt, se.stmts id = some stmt →
    stmt.id = id ∧ ∃ i < count, id.toNat = (base.toNat + i) % 2 ^ 32

namespace Issued

variable (calcParams : String → Except ExecError (Nat × List Nat × List String))
  {base : UInt32} {count : Nat} {se : SessionExecutor}

theorem start (hempty : ∀ id, se.stmts id = none) : Issued se.stmtID 0 se :=
  ⟨by rw [Nat.add_zero, Nat.mod_eq_of_lt (show se.stmtID.toNat < 2 ^ 32 from se.stmtID.toBitVec.isLt)],
    fun id _ h => absurd (h.symm.trans (hempty id)) nofun⟩

/-- Before the counter comes round, the next id is no key of the table. -/
theorem next_fresh (h : Issued base count se) (hcount : count < 2 ^ 32) : se.stmts se.stmtID = none := by
  cases hstmt : se.stmts se.stmtID with
  | none => rfl
  | some stmt =>
      obtain ⟨-, i, hi, hid⟩ := h.entries _ _ hstmt
      have := h.next
      omega

theorem step (h : Issued base count se) (call : StmtCall) :
    Issued base (count + preparedCount calcParams [call]) (se.stmtStep calcParams call) := by
  cases call with
  | prepare sql =>
      simp only [SessionExecutor.stmtStep, SessionExecutor.handleStmtPrepare, preparedCount]
      cases hcalc : calcParams (trimRight sql) with
      | error e => simpa using h
      | ok r =>
          simp only [Except.toBool, if_true]
          refine ⟨by simp [UInt32.toNat_add_one, h.next]; omega, fun id stmt hstmt => ?_⟩
          dsimp only at hstmt
          by_cases hid : id = se.stmtID
          · subst hid
            simp only [Function.update_same, Option.some.injEq] at hstmt
            exact ⟨by rw [← hstmt], count, by omega, h.next⟩
          · rw [Function.update_noteq hid] at hstmt
            obtain ⟨hstmtid, i, hi, hid⟩ := h.entries id stmt hstmt
            exact ⟨hstmtid, i, by omega, hid⟩
  | close data =>
      simp only [SessionExecutor.stmtStep, preparedCount, Nat.add_zero]
      match data with
      | b0 :: b1 :: b2 :: b3 :: _ =>
          refine ⟨h.next, fun id stmt hstmt => ?_⟩
          by_cases hid : id = littleEndianUint32 b0 b1 b2 b3
          · subst hid
            simp [SessionExecutor.handleStmtClose] at hstmt
          · exact h.entries id stmt (by simpa [SessionExecutor.handleStmtClose, hid] using hstmt)
      | [] | [_] | [_, _] | [_, _, _] => exact h

theorem run (h : Issued base count se) (calls : List StmtCall) :
    Issued base (count + preparedCount calcParams calls) (se.runStmtCalls calcParams calls) := by
  induction calls generalizing count se with
  | nil => exact h
  | cons call calls ih =>
      have := ih (h.step calcParams call)
      cases call <;>
        simpa [SessionExecutor.runStmtCalls, preparedCount, Nat.add_assoc] using this

end Issued

/-- Along any sequence of prepares and closes from an empty table, every entry holds the
statement of its own id, and while fewer than 2^32 statements have been prepared, the id
the next prepare takes is no key of the table. -/
theorem handleStmtPrepare_fresh_id_before_wrap
    (calcParams : String → Except ExecError (Nat × List Nat × List String)) (calls : List StmtCall)
    {se : SessionExecutor} (hempty : ∀ id, se.stmts id = none) :
    (∀ id stmt, (se.runStmtCalls calcParams calls).stmts id = some stmt → stmt.id = id) ∧
      (preparedCount calcParams calls < 2 ^ 32 →
        (se.runStmtCalls calcParams calls).stmts (se.runStmtCalls calcParams calls).stmtID = none) := by
  have h := (Issued.start hempty).run calcParams calls
  rw [Nat.zero_add] at h
  exact ⟨fun id stmt hstmt => (h.entries id stmt hstmt).1, h.next_fresh⟩

theorem handleStmtPrepare_fresh_id_after_close :
    (∀ id stmt, ((⟨0, "", 0, [], [], [], fun _ => none, 0, []⟩ : SessionExecutor).runStmtCalls
        (fun _ => .ok (0, [], [])) [.prepare "select 1", .close [0, 0, 0, 0], .prepare "select 2"]).stmts id =
          some stmt → stmt.id = id) ∧
      (preparedCount (fun _ => .ok (0, [], []))
          [.prepare "select 1", .close [0, 0, 0, 0], .prepare "select 2"] < 2 ^ 32 →
        ((⟨0, "", 0, [], [], [], fun _ => none, 0, []⟩ : SessionExecutor).runStmtCalls
            (fun _ => .ok (0, [], [])) [.prepare "select 1", .close [0, 0, 0, 0], .prepare "select 2"]).stmts
          ((⟨0, "", 0, [], [], [], fun _ => none, 0, []⟩ : SessionExecutor).runStmtCalls
            (fun _ => .ok (0, [], [])) [.prepare "select 1", .close [0, 0, 0, 0],
              .prepare "select 2"]).stmtID = none) :=
  handleStmtPrepare_fresh_id_before_wrap _ _ fun _ => rfl

/-- The first `n + 1` prepares of `select 1` from an empty table with counter 0. -/
theorem prepare_iterate_select_one :
    ∀ n < 2 ^ 32,
      ((fun se => (SessionExecutor.handleStmtPrepare se (fun _ => .ok (0, [], [])) "select 1").1)^[n + 1]
          ⟨0, "", 0, [], [], [], fun _ => none, 0, []⟩).stmtID.toNat = (n + 1) % 2 ^ 32 ∧
        (((fun se => (SessionExecutor.handleStmtPrepare se (fun _ => .ok (0, [], [])) "select 1").1)^[n + 1]
          ⟨0, "", 0, [], [], [], fun _ => none, 0, []⟩).stmts 0).map Stmt.sql = some "select 1"
  | 0, _ => by decide
  | n + 1, hn => by
      obtain ⟨hid, hsql⟩ := prepare_iterate_select_one n (by omega)
      rw [Function.iterate_succ_apply']
      generalize ((fun se => (SessionExecutor.handleStmtPrepare se (fun _ => .ok (0, [], [])) "select 1").1)^[n + 1]
          ⟨0, "", 0, [], [], [], fun _ => none, 0, []⟩) = se at hid hsql ⊢
      -- the new statement goes to an id other than 0
      have hne : (0 : UInt32) ≠ se.stmtID := fun h => by rw [← h] at hid; simp at hid; omega
      refine ⟨?_, ?_⟩
      · simp only [SessionExecutor.handleStmtPrepare, UInt32.toNat_add_one, hid]
        omega
      · simpa [SessionExecutor.handleStmtPrepare, Function.update_noteq hne] using hsql

/-- A prepare files its statement under the current id. -/
theorem handleStmtPrepare_stmts_stmtID {se : SessionExecutor}
    {calcParams : String → Except ExecError (Nat × List Nat × List String)} {sql : String}
    {r : Nat × List Nat × List String} (hcalc : calcParams (trimRight sql) = .ok r) :
    (se.handleStmtPrepare calcParams sql).1.stmts se.stmtID =
      some ⟨se.stmtID, trimRight sql, r.1, r.2.1, r.2.2, 0⟩ := by
  simp [SessionExecutor.handleStmtPrepare, hcalc]

/-- From an empty table, 2^32 prepares of one statement bring the counter back to the
first id while its statement is still open, and the next prepare replaces it. -/
theorem handleStmtPrepare_replaces_open_stmt_after_wrap :
    ∃ se : SessionExecutor,
      se = (fun se => (SessionExecutor.handleStmtPrepare se (fun _ => .ok (0, [], [])) "select 1").1)^[2 ^ 32]
        ⟨0, "", 0, [], [], [], fun _ => none, 0, []⟩ ∧
      (se.stmts 0).map Stmt.sql = some "select 1" ∧ se.stmtID = 0 ∧
      ((se.handleStmtPrepare (fun _ => .ok (0, [], [])) "select 2").1.stmts 0).map Stmt.sql =
        some "select 2" := by
  obtain ⟨hid, hsql⟩ := prepare_iterate_select_one (2 ^ 32 - 1) (by decide)
  rw [show 2 ^ 32 - 1 + 1 = 2 ^ 32 from rfl, Nat.mod_self] at hid
  rw [show 2 ^ 32 - 1 + 1 = 2 ^ 32 from rfl] at hsql
  have hzero : _ = (0 : UInt32) := UInt32.toNat.inj hid
  have hnext : ∀ se : SessionExecutor, se.stmtID = 0 →
      ((se.handleStmtPrepare (fun _ => .ok (0, [], [])) "select 2").1.stmts 0).map Stmt.sql =
        some "select 2" := fun se h => by
    rw [← h, handleStmtPrepare_stmts_stmtID rfl]
    rfl
  exact ⟨_, rfl, hsql, hzero, hnext _ hzero⟩

end Gaea.Server
