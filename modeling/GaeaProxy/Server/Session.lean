import GaeaProxy.Server.Manager

/-! # The keep-session loop of a session

`Session.Run` snapshots the namespace's change index at the top of every loop, reads
a packet, clears the cached keep-session connections when the index has grown past
the snapshot, runs the command, writes the response and checks whether a
transaction must be aborted. Registry calls interleave with these steps. The world
is the manager and one session; a nil namespace where the loop reads it panics, and
the deferred recover of `Run` closes the session.
-/

namespace Gaea.Server

/-- Where `Session.Run` is: before the `nsChangeIndexOld` snapshot, blocked in
`ReadEphemeralPacket`, before `clearKsConns`, `execCommand`, `writeResponse`, and the
`ComQuit` / `shouldClearKsAndCloseSession` check; or closed. -/
inductive Pc where
  | top
  | read
  | clear
  | exec
  | write
  | post
  | closed
  deriving DecidableEq, Repr

/-- The part of a `Session` and its `SessionExecutor` the loop reads. Each cached
keep-session connection is kept as the pointer of the namespace it was taken from,
and `readRef` is the pointer of the namespace that was current when the packet in
hand was read. -/
structure Session where
  namespaceName : String
  pc : Pc
  nsChangeIndexOld : UInt32
  keepSession : Bool
  inTransaction : Bool
  ksConns : List Nat
  readRef : Nat
  deriving DecidableEq, Repr

namespace Session

def close (s : Session) : Session :=
  { s with pc := .closed }

/-- `GetNamespace().namespaceChangeIndex`; `none` when the namespace is nil. -/
def namespaceChangeIndex (m : Manager) (s : Session) : Option UInt32 :=
  (m.getNamespace s.namespaceName).map (·.namespaceChangeIndex)

/-- `clearKsConns(nsChangeIndex)`: outside a transaction, a keep-session session closes
and recycles its cached connections once the index has grown past `nsChangeIndex`. -/
def clearKsConns (m : Manager) (s : Session) (nsChangeIndex : UInt32) : Option Session :=
  if s.keepSession then
    (namespaceChangeIndex m s).map fun index =>
      if nsChangeIndex < index && !s.inTransaction then { s with ksConns := [] } else s
  else some s

def shouldClearKsAndCloseSession (m : Manager) (s : Session) (nsChangeIndex : UInt32) :
    Option Bool :=
  if s.keepSession && s.inTransaction then
    (namespaceChangeIndex m s).map fun index => nsChangeIndex < index
  else some false

/-- Modelled from the spec: `ExecuteCommand` is not in the repository's files. A
keep-session command caches the connection it takes from the current namespace
(`acquire`) and leaves the transaction state `inTransaction`. -/
def executeCommand (m : Manager) (s : Session) (acquire inTransaction : Bool) :
    Option Session :=
  (m.getNamespace s.namespaceName).map fun ns =>
    { s with ksConns := if acquire then s.ksConns ++ [ns.ref] else s.ksConns, inTransaction }

/-- The session's actions, with the outcomes that come from outside the loop. -/
inductive Action where
  | snapshot
  | read (ok : Bool)
  | clear
  | exec (acquire inTransaction : Bool)
  | write (ok : Bool)
  | post (quit : Bool)
  deriving DecidableEq, Repr

/-- One action of `Run` against the manager `m`; `none` when the loop is elsewhere. -/
def step (m : Manager) (s : Session) (a : Action) : Option Session :=
  match s.pc, a with
  | .top, .snapshot =>
      some (((namespaceChangeIndex m s).map fun index =>
        { s with pc := .read, nsChangeIndexOld := index }).getD s.close)
  | .read, .read true =>
      some { s with
        pc := .clear
        readRef := ((m.getNamespace s.namespaceName).map (·.ref)).getD s.readRef }
  | .read, .read false => some ((clearKsConns m s s.nsChangeIndexOld).getD s).close
  | .clear, .clear =>
      some (((clearKsConns m s s.nsChangeIndexOld).map fun s => { s with pc := .exec }).getD s.close)
  | .exec, .exec acquire inTransaction =>
      match shouldClearKsAndCloseSession m s s.nsChangeIndexOld with
      | some true => some { s with pc := .write }
      | some false =>
          some (((executeCommand m s acquire inTransaction).map fun s =>
            { s with pc := .write }).getD s.close)
      | none => some s.close
  | .write, .write true => some { s with pc := .post }
  | .write, .write false => some ((clearKsConns m s s.nsChangeIndexOld).getD s).close
  | .post, .post quit =>
      match shouldClearKsAndCloseSession m s s.nsChangeIndexOld with
      | some false => some (if quit then s.close else { s with pc := .top })
      | _ => some s.close
  | _, _ => none

end Session

/-- The manager and one session. -/
structure World where
  manager : Manager
  session : Session

/-- A registry call, or an action of the session. -/
inductive Event where
  | call (c : Call)
  | session (a : Session.Action)
  deriving DecidableEq, Repr

namespace World

def step (w : World) : Event → Option World
  | .call c => some { w with manager := w.manager.step c }
  | .session a => (w.session.step w.manager a).map fun s => { w with session := s }

def run (w : World) : List Event → Option World
  | [] => some w
  | e :: es => (w.step e).bind fun w' => w'.run es

end World

/-- `execCommand` is about to hand its packet to `ExecuteCommand` while the session
caches a keep-session connection taken from another namespace than the one current
when the packet was read. -/
def ExecutesOnStaleConn (w : World) : Prop :=
  w.session.pc = .exec ∧
    w.session.shouldClearKsAndCloseSession w.manager w.session.nsChangeIndexOld = some false ∧
    (w.manager.getNamespace w.session.namespaceName).isSome ∧
    ∃ ref ∈ w.session.ksConns, ref ≠ w.session.readRef

instance : DecidablePred ExecutesOnStaleConn := fun _ =>
  inferInstanceAs (Decidable (_ ∧ _ ∧ _ ∧ _))

/-- A reload committed while a keep-session session answers a request: the next loop
snapshots the new index before it reads, `clearKsConns` sees no change, and the next
packet, read after the commit, runs with the connection taken before it. -/
theorem commit_during_request_keeps_stale_conn :
    ∃ w, World.run ⟨Manager.createManager (fun _ => true) [⟨"ns", []⟩],
        ⟨"ns", .top, 0, true, false, [], 0⟩⟩
      [.session .snapshot, .session (.read true), .session .clear,
        .session (.exec true false),
        .call (.reloadNamespacePrepare ⟨"ns", []⟩ true), .call (.reloadNamespaceCommit "ns"),
        .session (.write true), .session (.post false),
        .session .snapshot, .session (.read true), .session .clear] = some w ∧
      ExecutesOnStaleConn w :=
  ⟨_, rfl, by decide⟩

end Gaea.Server
