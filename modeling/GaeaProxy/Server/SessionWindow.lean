import GaeaProxy.Server.Session

/-! # The window the keep-session check covers

The check of `Session.Run` compares the change index with the snapshot taken at the
top of the loop, so it sees the commits that land after that snapshot and before
`clearKsConns`: while the session waits for a packet or has just read one. When every
commit lands in that window, no command runs on a connection cached from another
version of the namespace. The session's namespace must not be deleted (a namespace
created again restarts its index) and its index must not wrap around in `uint32`.
-/

namespace Gaea.Server

/-- Adding one to a `uint32` below its largest value goes past every value up to it. -/
theorem UInt32.lt_add_one_of_le {a b : UInt32} (hab : a ≤ b) (hb : b.toNat + 1 < 2 ^ 32) :
    a < b + 1 := by
  have hadd : (b + 1).toNat = b.toNat + 1 := by
    show (b.toBitVec + 1#32).toNat = _
    rw [BitVec.toNat_add, BitVec.toNat_ofNat]
    exact Nat.mod_eq_of_lt (by simpa using hb)
  show a.toNat < (b + 1).toNat
  have : a.toNat ≤ b.toNat := hab
  omega

theorem UInt32.eq_of_le_of_not_lt {a b : UInt32} (hab : a ≤ b) (hlt : ¬a < b) : a = b :=
  UInt32.toNat.inj (Nat.le_antisymm hab (Nat.not_lt.mp hlt))

/-! ### The session's namespace across registry calls -/

/-- The session's namespace `name` is present, and the slot a commit would install
holds the same version or one whose change index is one more. -/
structure Tracks (name : String) (m : Manager) : Prop where
  present : (m.getNamespace name).isSome
  prepared : m.reloadPrepared = true → ∀ cur, m.getNamespace name = some cur →
    ∃ next, (m.namespaces (!m.switchIndex)).getNamespace name = some next ∧
      (next = cur ∨ next.namespaceChangeIndex = cur.namespaceChangeIndex + 1)

namespace Tracks

variable {name : String} {m : Manager}

theorem step_prepare (h : Tracks name m) (config : NamespaceConfig) (built : Bool) :
    Tracks name (m.step (.reloadNamespacePrepare config built)) := by
  cases built
  · simpa using h
  refine ⟨by simpa using h.present, fun _ cur hcur => ?_⟩
  rw [Manager.getNamespace_step_prepare] at hcur
  rw [Manager.step_prepare_switchIndex, Manager.getNamespace_other_step_prepare]
  by_cases hname : name = config.name
  · subst hname
    refine ⟨_, Function.update_same _ _ _, .inr ?_⟩
    show Manager.nextChangeIndex (m.getNamespace config.name) = _
    simp [Manager.nextChangeIndex, hcur]
  · exact ⟨cur, by simp [hname, hcur], .inl rfl⟩

theorem step_commit (h : Tracks name m) (name' : String) :
    Tracks name (m.step (.reloadNamespaceCommit name')) := by
  cases hprepared : m.reloadPrepared
  · rwa [Manager.step_commit_of_not_prepared name' hprepared]
  obtain ⟨cur, hcur⟩ := Option.isSome_iff_exists.mp h.present
  obtain ⟨next, hnext, -⟩ := h.prepared hprepared cur hcur
  refine ⟨?_, fun hprepared' => ?_⟩
  · rw [Manager.getNamespace_step_commit name' hprepared, hnext]; rfl
  · simp [Manager.reloadPrepared_step_commit] at hprepared'

theorem step_delete (h : Tracks name m) {name' : String} (hname : name ≠ name') :
    Tracks name (m.step (.deleteNamespace name')) := by
  rw [Manager.step_delete]
  cases hdelete : m.getNamespace name' with
  | none => rwa [Manager.deleteNamespace_of_none hdelete]
  | some ns =>
      have hsame : (m.deleteNamespace name').getNamespace name = m.getNamespace name := by
        simp [Manager.getNamespace_deleteNamespace, hname]
      refine ⟨hsame ▸ h.present, fun _ cur hcur => ⟨cur, ?_, .inl rfl⟩⟩
      rw [hsame] at hcur
      -- the delete flips to the slot it wrote: the other slot is the one read before
      unfold Manager.deleteNamespace
      rw [hdelete]
      simpa [Manager.getNamespace] using hcur

/-- A registry call other than a delete of the session's namespace keeps it tracked. -/
theorem step (h : Tracks name m) {c : Call} (hc : c ≠ .deleteNamespace name) :
    Tracks name (m.step c) := by
  cases c with
  | reloadNamespacePrepare config built => exact h.step_prepare config built
  | reloadNamespaceCommit name' => exact h.step_commit name'
  | deleteNamespace name' => exact h.step_delete fun heq => hc (heq ▸ rfl)

/-- Across a call, the session's namespace keeps its version, or a commit installs one
whose change index is one more. -/
theorem getNamespace_step (h : Tracks name m) {c : Call} (hc : c ≠ .deleteNamespace name)
    {cur : Namespace} (hcur : m.getNamespace name = some cur) :
    (m.step c).getNamespace name = some cur ∨ (∃ name', c = .reloadNamespaceCommit name') ∧
      ∃ next, (m.step c).getNamespace name = some next ∧
        next.namespaceChangeIndex = cur.namespaceChangeIndex + 1 := by
  cases c with
  | reloadNamespacePrepare config built => exact .inl (by simpa using hcur)
  | reloadNamespaceCommit name' =>
      cases hprepared : m.reloadPrepared
      · exact .inl (by rwa [Manager.step_commit_of_not_prepared name' hprepared])
      obtain ⟨next, hnext, hnext'⟩ := h.prepared hprepared cur hcur
      rw [Manager.getNamespace_step_commit name' hprepared, hnext]
      rcases hnext' with rfl | hindex
      · exact .inl rfl
      · exact .inr ⟨⟨name', rfl⟩, next, rfl, hindex⟩
  | deleteNamespace name' =>
      have hname : name ≠ name' := fun heq => hc (heq ▸ rfl)
      exact .inl (by simp [Manager.getNamespace_deleteNamespace, hname, hcur])

end Tracks

/-! ### The loop against a present namespace -/

namespace Session

variable {m : Manager} {s : Session} {cur : Namespace}

theorem namespaceChangeIndex_of_getNamespace (hcur : m.getNamespace s.namespaceName = some cur) :
    namespaceChangeIndex m s = some cur.namespaceChangeIndex := by
  simp [namespaceChangeIndex, hcur]

theorem clearKsConns_of_getNamespace (hkeep : s.keepSession = true)
    (hcur : m.getNamespace s.namespaceName = some cur) (nsChangeIndex : UInt32) :
    clearKsConns m s nsChangeIndex = some { s with
      ksConns := if nsChangeIndex < cur.namespaceChangeIndex ∧ s.inTransaction = false then []
        else s.ksConns } := by
  have hindex := namespaceChangeIndex_of_getNamespace hcur
  obtain ⟨name, pc, snap, keep, inTransaction, ksConns, readRef⟩ := s
  dsimp only at hkeep hindex
  subst hkeep
  simp only [clearKsConns, if_true, hindex, Option.map_some', Option.some.injEq]
  cases inTransaction <;> by_cases hlt : nsChangeIndex < cur.namespaceChangeIndex <;> simp [hlt]

theorem shouldClearKsAndCloseSession_of_getNamespace (hkeep : s.keepSession = true)
    (hcur : m.getNamespace s.namespaceName = some cur) (nsChangeIndex : UInt32) :
    shouldClearKsAndCloseSession m s nsChangeIndex =
      some (s.inTransaction && decide (nsChangeIndex < cur.namespaceChangeIndex)) := by
  cases hin : s.inTransaction <;>
    simp [shouldClearKsAndCloseSession, hkeep, hin, namespaceChangeIndex_of_getNamespace hcur]

theorem executeCommand_of_getNamespace (hcur : m.getNamespace s.namespaceName = some cur)
    (acquire inTransaction : Bool) :
    executeCommand m s acquire inTransaction = some { s with
      ksConns := if acquire then s.ksConns ++ [cur.ref] else s.ksConns, inTransaction } := by
  simp [executeCommand, hcur]

end Session

/-- Where the session's cached connections come from at each point of the loop, against
the current version `cur` of its namespace. From the top of the loop to the packet, all
are from `cur`; from the packet to `clearKsConns`, any other is caught by an index past
the snapshot; before `execCommand`, they are from the version the packet was read
under, or a transaction is about to be aborted. -/
def Fresh (s : Session) (cur : Namespace) : Prop :=
  match s.pc with
  | .top => ∀ k ∈ s.ksConns, k = cur.ref
  | .read => s.nsChangeIndexOld ≤ cur.namespaceChangeIndex ∧
      ∀ k ∈ s.ksConns, k = cur.ref ∨ s.nsChangeIndexOld < cur.namespaceChangeIndex
  | .clear => s.nsChangeIndexOld ≤ cur.namespaceChangeIndex ∧
      (s.nsChangeIndexOld = cur.namespaceChangeIndex → s.readRef = cur.ref) ∧
      ∀ k ∈ s.ksConns, k = s.readRef ∨ s.nsChangeIndexOld < cur.namespaceChangeIndex
  | .exec => (s.inTransaction = true ∧ s.nsChangeIndexOld < cur.namespaceChangeIndex) ∨
      ∀ k ∈ s.ksConns, k = s.readRef ∧ k = cur.ref
  | .write | .post => (s.inTransaction = true ∧ s.nsChangeIndexOld < cur.namespaceChangeIndex) ∨
      ∀ k ∈ s.ksConns, k = cur.ref
  | .closed => True

/-- One action of the loop keeps the session's namespace and mode, and its connections
fresh. -/
theorem Fresh.step {m : Manager} {s s' : Session} {cur : Namespace} {a : Session.Action}
    (hkeep : s.keepSession = true) (hcur : m.getNamespace s.namespaceName = some cur)
    (h : Fresh s cur) (hstep : s.step m a = some s') :
    s'.namespaceName = s.namespaceName ∧ s'.keepSession = true ∧ Fresh s' cur := by
  have hindex := Session.namespaceChangeIndex_of_getNamespace hcur
  have hclear := Session.clearKsConns_of_getNamespace hkeep hcur s.nsChangeIndexOld
  have hshould := Session.shouldClearKsAndCloseSession_of_getNamespace hkeep hcur s.nsChangeIndexOld
  have hexec := Session.executeCommand_of_getNamespace hcur
  obtain ⟨name, pc, snap, keep, inTransaction, ksConns, readRef⟩ := s
  dsimp only at hkeep hcur hindex hclear hshould hexec h hstep ⊢
  subst hkeep
  cases pc with
  | top =>
      cases a <;> simp only [Session.step, reduceCtorEq] at hstep
      simp only [hindex, Option.map_some', Option.getD_some, Option.some.injEq] at hstep
      subst hstep
      exact ⟨rfl, rfl, UInt32.le_refl _, fun k hk => .inl (h k hk)⟩
  | read =>
      cases a <;> simp only [Session.step, reduceCtorEq] at hstep
      next ok =>
        cases ok <;> simp only [Session.step, hclear, hcur, Option.map_some', Option.getD_some,
          Option.some.injEq] at hstep <;> subst hstep
        · exact ⟨rfl, rfl, trivial⟩
        · exact ⟨rfl, rfl, h.1, fun _ => rfl, fun k hk => h.2 k hk⟩
  | clear =>
      cases a <;> simp only [Session.step, reduceCtorEq] at hstep
      simp only [hclear, Option.map_some', Option.getD_some, Option.some.injEq] at hstep
      subst hstep
      obtain ⟨hle, hread, hks⟩ := h
      refine ⟨rfl, rfl, ?_⟩
      dsimp only [Fresh]
      by_cases hlt : snap < cur.namespaceChangeIndex
      · cases inTransaction
        · exact .inr (by simp [hlt])
        · exact .inl ⟨rfl, hlt⟩
      · -- no commit since the snapshot: the packet was read under the current version
        have hread := hread (UInt32.eq_of_le_of_not_lt hle hlt)
        simp only [hlt, false_and, if_false]
        exact .inr fun k hk => ⟨(hks k hk).resolve_right hlt, hread ▸ (hks k hk).resolve_right hlt⟩
  | exec =>
      cases a <;> simp only [Session.step, reduceCtorEq] at hstep
      next acquire inTransaction' =>
        rw [hshould] at hstep
        cases hq : (inTransaction && decide (snap < cur.namespaceChangeIndex)) <;>
          simp only [hq, hexec, Option.map_some', Option.getD_some, Option.some.injEq] at hstep <;>
          subst hstep <;> refine ⟨rfl, rfl, ?_⟩ <;> dsimp only [Fresh]
        · -- the command runs, on connections of the current version
          have hks := h.resolve_left (by simpa using hq)
          refine .inr fun k hk => ?_
          split at hk
          · rcases List.mem_append.mp hk with hk | hk
            · exact (hks k hk).2
            · exact List.mem_singleton.mp hk
          · exact (hks k hk).2
        · exact .inl (by simpa using hq)
  | write =>
      cases a <;> simp only [Session.step, reduceCtorEq] at hstep
      next ok =>
        cases ok <;> simp only [hclear, Option.getD_some, Option.some.injEq] at hstep <;> subst hstep
        · exact ⟨rfl, rfl, trivial⟩
        · exact ⟨rfl, rfl, h⟩
  | post =>
      cases a <;> simp only [Session.step, reduceCtorEq] at hstep
      next quit =>
        rw [hshould] at hstep
        cases hq : (inTransaction && decide (snap < cur.namespaceChangeIndex)) <;>
          cases quit <;>
          simp only [hq, Bool.false_eq_true, if_true, if_false, Option.some.injEq] at hstep <;>
          subst hstep
        · exact ⟨rfl, rfl, h.resolve_left (by simpa using hq)⟩
        all_goals exact ⟨rfl, rfl, trivial⟩
  | closed => cases a <;> simp [Session.step] at hstep

/-- A commit while the session waits for its packet or has just read it installs at most
a version with an index past the snapshot, which `clearKsConns` then sees. -/
theorem Fresh.of_commit {s : Session} {cur next : Namespace} (h : Fresh s cur)
    (hpc : s.pc = .read ∨ s.pc = .clear)
    (hindex : next.namespaceChangeIndex = cur.namespaceChangeIndex + 1)
    (hwrap : cur.namespaceChangeIndex.toNat + 1 < 2 ^ 32) : Fresh s next := by
  have hlt : ∀ i, i ≤ cur.namespaceChangeIndex → i < next.namespaceChangeIndex := fun i hi =>
    hindex ▸ UInt32.lt_add_one_of_le hi hwrap
  obtain ⟨name, pc, snap, keep, inTransaction, ksConns, readRef⟩ := s
  dsimp only at hpc
  rcases hpc with rfl | rfl
  · exact ⟨Nat.le_of_lt (hlt snap h.1), fun _ _ => .inr (hlt snap h.1)⟩
  · exact ⟨Nat.le_of_lt (hlt snap h.1), fun heq => absurd (heq ▸ hlt snap h.1) (UInt32.lt_irrefl _),
      fun _ _ => .inr (hlt snap h.1)⟩

/-! ### Runs whose commits land in the window -/

/-- The events of the window: any action of the session, and any registry call but a
delete of the session's namespace, a commit coming only while the session waits for its
packet or has just read it, and before its namespace's index reaches the largest
`uint32`. -/
def InWindow (w : World) : Event → Prop
  | .call (.deleteNamespace name) => name ≠ w.session.namespaceName
  | .call (.reloadNamespaceCommit _) => (w.session.pc = .read ∨ w.session.pc = .clear) ∧
      ∀ ns, w.manager.getNamespace w.session.namespaceName = some ns →
        ns.namespaceChangeIndex.toNat + 1 < 2 ^ 32
  | .call (.reloadNamespacePrepare _ _) => True
  | .session _ => True

/-- The worlds reached from `w₀` by events that each satisfy `allowed`. -/
inductive World.Reachable (allowed : World → Event → Prop) (w₀ : World) : World → Prop
  | init : World.Reachable allowed w₀ w₀
  | step {w w' : World} (e : Event) : World.Reachable allowed w₀ w → allowed w e →
      w.step e = some w' → World.Reachable allowed w₀ w'

/-- The session's namespace is tracked, the session keeps its connections, and they are
fresh against the current version. -/
structure World.Safe (w : World) : Prop where
  tracks : Tracks w.session.namespaceName w.manager
  keepSession : w.session.keepSession = true
  fresh : ∀ cur, w.manager.getNamespace w.session.namespaceName = some cur → Fresh w.session cur

theorem World.Safe.step {w w' : World} {e : Event} (h : w.Safe) (he : InWindow w e)
    (hstep : w.step e = some w') : w'.Safe := by
  obtain ⟨cur, hcur⟩ := Option.isSome_iff_exists.mp h.tracks.present
  cases e with
  | call c =>
      simp only [World.step, Option.some.injEq] at hstep
      subst hstep
      have hc : c ≠ .deleteNamespace w.session.namespaceName := by
        rintro rfl
        exact he rfl
      refine ⟨h.tracks.step hc, h.keepSession, fun next hnext => ?_⟩
      rcases h.tracks.getNamespace_step hc hcur with
        hsame | ⟨⟨name', rfl⟩, next', hnext', hindex⟩
      · -- a call that keeps the version
        obtain rfl : cur = next := Option.some.inj (hsame.symm.trans hnext)
        exact h.fresh cur hcur
      · -- a commit in the window
        obtain rfl : next' = next := Option.some.inj (hnext'.symm.trans hnext)
        exact (h.fresh cur hcur).of_commit he.1 hindex (he.2 cur hcur)
  | session a =>
      obtain ⟨s, hs, rfl⟩ := Option.map_eq_some'.mp hstep
      obtain ⟨hname, hkeep, hfresh⟩ := (h.fresh cur hcur).step h.keepSession hcur hs
      refine ⟨hname ▸ h.tracks, hkeep, fun cur' hcur' => ?_⟩
      obtain rfl : cur = cur' := Option.some.inj (hcur.symm.trans (hname ▸ hcur'))
      exact hfresh

/-- Take a keep-session session at the top of its loop with no cached connection, on a
manager where its namespace is present and no reload is prepared. When every commit
lands while the session waits for its packet or has just read it, the session's
namespace is never deleted and its index never wraps around, no command runs with a
connection cached from another version of the namespace than the one the packet was
read under. -/
theorem no_stale_conn_when_commits_land_before_clear {m : Manager} {name : String}
    {nsChangeIndexOld : UInt32} {inTransaction : Bool} {readRef : Nat}
    (hpresent : (m.getNamespace name).isSome) (hprepared : m.reloadPrepared = false) {w : World}
    (h : World.Reachable InWindow
      ⟨m, ⟨name, .top, nsChangeIndexOld, true, inTransaction, [], readRef⟩⟩ w) :
    ¬ExecutesOnStaleConn w := by
  have hsafe : w.Safe := by
    induction h with
    | init =>
        exact ⟨⟨hpresent, fun h => by simp [hprepared] at h⟩, rfl, fun _ _ _ hk => (nomatch hk)⟩
    | step _ _ he hstep ih => exact ih.step he hstep
  rintro ⟨hpc, hshould, hsome, k, hk, hne⟩
  obtain ⟨cur, hcur⟩ := Option.isSome_iff_exists.mp hsome
  have hfresh := hsafe.fresh cur hcur
  simp only [Fresh, hpc] at hfresh
  rw [Session.shouldClearKsAndCloseSession_of_getNamespace hsafe.keepSession hcur] at hshould
  exact hne ((hfresh.resolve_left (by simpa using hshould)) k hk).1

theorem no_stale_conn_after_commit_while_reading :
    ∃ w, World.run ⟨Manager.createManager (fun _ => true) [⟨"ns", []⟩],
        ⟨"ns", .top, 0, true, false, [], 0⟩⟩
      [.session .snapshot, .session (.read true), .session .clear, .session (.exec true false),
        .session (.write true), .session (.post false), .session .snapshot,
        .call (.reloadNamespacePrepare ⟨"ns", []⟩ true), .call (.reloadNamespaceCommit "ns"),
        .session (.read true), .session .clear] = some w ∧ ¬ExecutesOnStaleConn w :=
  ⟨_, rfl, @no_stale_conn_when_commits_land_before_clear
    (Manager.createManager (fun _ => true) [⟨"ns", []⟩]) "ns" 0 false 0 rfl rfl _
    (.step (.session .clear) (.step (.session (.read true))
      (.step (.call (.reloadNamespaceCommit "ns")) (.step (.call (.reloadNamespacePrepare ⟨"ns", []⟩ true))
        (.step (.session .snapshot) (.step (.session (.post false)) (.step (.session (.write true))
          (.step (.session (.exec true false)) (.step (.session .clear) (.step (.session (.read true))
            (.step (.session .snapshot) .init trivial rfl) trivial rfl) trivial rfl) trivial rfl)
            trivial rfl) trivial rfl) trivial rfl) trivial rfl)
        ⟨.inl rfl, fun _ hns => by cases hns; decide⟩ rfl) trivial rfl) trivial rfl)⟩

end Gaea.Server
