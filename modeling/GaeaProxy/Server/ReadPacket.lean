import GaeaProxy.Server.MultiStmts

/-! # The read packet of `Run`'s loop

`ReadEphemeralPacket` lends the session a packet until `RecycleReadPacket`. A
multi-statement query recycles it early, in `doMultiStmts`, and raises the guard bit
`hasRecycledReadPacket`; `Run` then clears the bit, and recycles the packet itself otherwise.
What each pass meets (the packet, the namespace checks, the query's answers and the packet
write's error) is a parameter; `writeResponse` adds the error of a session-closing answer.
-/

namespace Gaea.Server

/-- Modelled from the spec: the command bytes `mysql.ComQuit` and `mysql.ComQuery`, with
their values in the MySQL protocol. -/
def comQuit : UInt8 := 0x01

def comQuery : UInt8 := 0x03

/-- Go's `string(data)`: one character per byte. -/
def bytesToString (data : List UInt8) : String :=
  ⟨data.map fun b => Char.ofNat b.toNat⟩

/-- What one pass of `Run`'s loop meets: the packet `ReadEphemeralPacket` returns (`none`
when it fails); the answers of `shouldClearKsAndCloseSession` in `execCommand` and after
the write; for a query, the namespace's settings, `isInTransaction()`,
`limiter.Allow()` and the answers `doQuery` and the writes get; the handler of any other
command; and the error of the packet write `writeResponse` makes. -/
structure Turn where
  packet : Option (List UInt8)
  shouldClearBeforeExec : Bool
  shouldClearAfterWrite : Bool
  settings : QuerySettings
  inTransaction : Bool
  allow : Bool
  query : QueryEnv
  otherCommand : SessionExecutor → UInt8 → List UInt8 → SessionExecutor × Response
  packetError : Option ExecError

namespace ClientConn

/-- A successful `ReadEphemeralPacket`, logged. -/
def readEphemeralPacket (c : ClientConn) : ClientConn :=
  { c with packetCalls := c.packetCalls ++ [.read] }

end ClientConn

namespace SessionExecutor

/-- Modelled from the spec: `ExecuteCommand(cmd, data)` passes `COM_QUERY` to
`handleQuery` with the rest of the packet as its SQL, and answers with its error or its
result set; every other command goes to its own handler, which does not touch the read
buffer. -/
def executeCommand (se : SessionExecutor) (c : ClientConn)
    (splitStatementToPieces : String → Except ExecError (List String)) (turn : Turn)
    (cmd : UInt8) (data : List UInt8) : SessionExecutor × ClientConn × Response :=
  if cmd = comQuery then
    match se.handleQuery c turn.settings turn.inTransaction turn.allow splitStatementToPieces
        turn.query (bytesToString data) with
    | (se, c, _, some err) => (se, c, createErrorResponse se.status err)
    | (se, c, r, none) => (se, c, createResultResponse se.status r false)
  else
    ((turn.otherCommand se cmd data).1, c, (turn.otherCommand se cmd data).2)

/-- `Session.execCommand(cmd, data)`. -/
def execCommand (se : SessionExecutor) (c : ClientConn)
    (splitStatementToPieces : String → Except ExecError (List String)) (turn : Turn)
    (cmd : UInt8) (data : List UInt8) : SessionExecutor × ClientConn × Response :=
  if turn.shouldClearBeforeExec then (se, c, createErrorResponse se.status .errTxNsChanged)
  else se.executeCommand c splitStatementToPieces turn cmd data

end SessionExecutor

/-- `Session.writeResponse(r)` as `Run` sees it: the error it returns when its packet write
returns `packetError`. A `SessionCloseRespError` is written and returned whatever the write
returned, and a `SessionCloseNoRespError` is returned without a write. -/
def writeResponseError (r : Response) (packetError : Option ExecError) : Option ExecError :=
  match r with
  | .error _ (.sessionCloseResp err) => some (.sessionCloseResp err)
  | .error _ (.sessionCloseNoResp err) => some (.sessionCloseNoResp err)
  | _ => packetError

/-- One pass of `Run`'s loop. A packet with no command byte makes `data[0]` panic, and the
deferred recover of `Run` closes the session. -/
def runStep (splitStatementToPieces : String → Except ExecError (List String))
    (se : SessionExecutor) (c : ClientConn) (turn : Turn) : SessionExecutor × ClientConn :=
  match turn.packet with
  | none => (se, c.recycleReadPacket.close)
  | some [] => (se, c.readEphemeralPacket.close)
  | some (cmd :: data) =>
      let (se, c, rs) := se.execCommand c.readEphemeralPacket splitStatementToPieces turn cmd data
      let (swapped, c) := c.compareAndSwap true false
      let c := if swapped then c else c.recycleReadPacket
      let c := c.writeResponse rs
      match writeResponseError rs turn.packetError with
      | some _ => (se, c.close)
      | none => if cmd = comQuit || turn.shouldClearAfterWrite then (se, c.close) else (se, c)

/-- `Session.Run`: `for !cc.IsClosed()`, one pass per turn. -/
def run (splitStatementToPieces : String → Except ExecError (List String)) :
    SessionExecutor → ClientConn → List Turn → SessionExecutor × ClientConn
  | se, c, [] => (se, c)
  | se, c, turn :: turns =>
      if c.closed then (se, c)
      else run splitStatementToPieces (runStep splitStatementToPieces se c turn).1
        (runStep splitStatementToPieces se c turn).2 turns

/-! ### Every packet is recycled once -/

/-- The calls a pass makes on the read buffer, by what `ReadEphemeralPacket` returned: a
failed read is recycled, a packet with no command byte panics before any recycle, and any
other packet is read and recycled once. -/
def packetTail : Option (List UInt8) → List PacketCall
  | none => [.recycle]
  | some [] => [.read]
  | some (_ :: _) => [.read, .recycle]

/-- Whether the command sends its query to `doMultiStmts`. -/
def Turn.callsDoMultiStmts (turn : Turn) (c : ClientConn) (cmd : UInt8) : Bool :=
  !turn.shouldClearBeforeExec && cmd = comQuery &&
    turn.settings.callsDoMultiStmts c turn.inTransaction turn.allow

namespace SessionExecutor

/-- With the guard bit down, a command recycles the read packet and raises the bit exactly
when it goes to `doMultiStmts`. -/
theorem execCommand_readBuffer (se : SessionExecutor) (c : ClientConn)
    (splitStatementToPieces : String → Except ExecError (List String)) (turn : Turn)
    (cmd : UInt8) (data : List UInt8) (hflag : c.hasRecycledReadPacket = false) :
    (se.execCommand c splitStatementToPieces turn cmd data).2.1.hasRecycledReadPacket =
        turn.callsDoMultiStmts c cmd ∧
      (se.execCommand c splitStatementToPieces turn cmd data).2.1.packetCalls =
        c.packetCalls ++ if turn.callsDoMultiStmts c cmd then [.recycle] else [] := by
  unfold execCommand Turn.callsDoMultiStmts
  by_cases hclear : turn.shouldClearBeforeExec
  · simp [hclear, hflag]
  · by_cases hcmd : cmd = comQuery
    · obtain ⟨hflag', hcalls⟩ := handleQuery_readBuffer se c turn.settings turn.inTransaction
        turn.allow splitStatementToPieces turn.query (bytesToString data)
      simp only [executeCommand, hclear, hcmd, if_true, Bool.false_eq_true, if_false]
      split <;> rename_i h <;> rw [h] at hflag' hcalls <;>
        simp only [hflag, Bool.false_or, Bool.not_false, Bool.and_true] at hflag' hcalls <;>
        exact ⟨hflag', hcalls⟩
    · simp [executeCommand, hclear, hcmd, hflag]

end SessionExecutor

/-- From the top of the loop, with the guard bit down, a pass makes the calls on the read
buffer that its packet calls for, and leaves the bit down, whether it closes the session or
not. -/
theorem runStep_readBuffer (splitStatementToPieces : String → Except ExecError (List String))
    (se : SessionExecutor) (c : ClientConn) (turn : Turn) (hflag : c.hasRecycledReadPacket = false) :
    (runStep splitStatementToPieces se c turn).2.hasRecycledReadPacket = false ∧
      (runStep splitStatementToPieces se c turn).2.packetCalls =
        c.packetCalls ++ packetTail turn.packet := by
  unfold runStep
  split
  · next hpacket => simp [hpacket, packetTail, ClientConn.recycleReadPacket, ClientConn.close, hflag]
  · next hpacket => simp [hpacket, packetTail, ClientConn.readEphemeralPacket, ClientConn.close, hflag]
  · next cmd data hpacket =>
      obtain ⟨hflag', hcalls⟩ := SessionExecutor.execCommand_readBuffer se c.readEphemeralPacket
        splitStatementToPieces turn cmd data hflag
      generalize se.execCommand c.readEphemeralPacket splitStatementToPieces turn cmd data = x
        at hflag' hcalls ⊢
      obtain ⟨se', c', rs⟩ := x
      dsimp only at hflag' hcalls
      unfold ClientConn.compareAndSwap
      -- the packet is recycled by `doMultiStmts` or by `Run`, never by both
      cases hb : turn.callsDoMultiStmts c.readEphemeralPacket cmd
      all_goals
        rw [hb] at hflag' hcalls
        simp only [hflag', if_true, if_false, Bool.false_eq_true]
        split
        all_goals try split
        all_goals
          simp [hpacket, packetTail, ClientConn.close, ClientConn.writeResponse,
            ClientConn.recycleReadPacket, ClientConn.readEphemeralPacket, hflag', hcalls]

theorem run_of_closed (splitStatementToPieces : String → Except ExecError (List String))
    {se : SessionExecutor} {c : ClientConn} (hclosed : c.closed = true) (turns : List Turn) :
    run splitStatementToPieces se c turns = (se, c) := by
  cases turns <;> simp [run, hclosed]

/-- From the top of the loop with the guard bit down, a run makes the passes of a prefix of
its turns, each with the calls its packet calls for, and stops early only once the session
is closed. -/
theorem run_readBuffer (splitStatementToPieces : String → Except ExecError (List String)) :
    ∀ (turns : List Turn) (se : SessionExecutor) (c : ClientConn),
      c.hasRecycledReadPacket = false →
      ∃ m ≤ turns.length, (run splitStatementToPieces se c turns).2.hasRecycledReadPacket = false ∧
        (run splitStatementToPieces se c turns).2.packetCalls =
          c.packetCalls ++ (turns.take m).flatMap (fun turn => packetTail turn.packet) ∧
        (m < turns.length → (run splitStatementToPieces se c turns).2.closed = true)
  | [], se, c, hflag => ⟨0, le_rfl, hflag, by simp [run], nofun⟩
  | turn :: turns, se, c, hflag => by
      cases hclosed : c.closed
      · -- one pass, then the rest of the run from the top of the loop
        obtain ⟨hflag', hcalls'⟩ := runStep_readBuffer splitStatementToPieces se c turn hflag
        obtain ⟨m, hm, hflagRun, hcallsRun, hstop⟩ := run_readBuffer splitStatementToPieces turns _ _ hflag'
        refine ⟨m + 1, by simpa using hm, ?_, ?_, fun hlt => ?_⟩
        all_goals simp only [run, hclosed, Bool.false_eq_true, if_false]
        · exact hflagRun
        · rw [hcallsRun, hcalls']
          simp
        · exact hstop (by simpa using hlt)
      · rw [run_of_closed splitStatementToPieces hclosed]
        exact ⟨0, Nat.zero_le _, hflag, by simp, fun _ => hclosed⟩

end Gaea.Server
