import GaeaProxy.Server.Manager

/-! # The two-phase reload protocol

What the dual-slot manager is for: one map from names to namespaces, and at most
one prepared version waiting for its commit. The manager refines this registry on
every call sequence in which no present namespace is deleted while a reload is
prepared. A delete inside that window writes the prepared slot and flips, and the
commit that follows flips back to the slot from before the delete.
-/

namespace Gaea.Server

/-- The registry the dual-slot manager implements. -/
structure Registry where
  active : String → Option Namespace
  pending : Option Namespace

namespace Registry

/-- The version a prepare builds: a new namespace whose change index is the
current version's plus one, or one when there is none. -/
def prepared (r : Registry) (ref : Nat) (config : NamespaceConfig) : Namespace :=
  { newNamespace ref config with
    namespaceChangeIndex := Manager.nextChangeIndex (r.active config.name) }

/-- A call on the registry; `ref` is the pointer a build allocates. A commit installs
the pending version whatever name it is given. -/
def step (r : Registry) (ref : Nat) : Call → Registry
  | .reloadNamespacePrepare config built =>
      if built then { r with pending := some (r.prepared ref config) } else r
  | .reloadNamespaceCommit _ =>
      match r.pending with
      | some ns => ⟨Function.update r.active ns.name (some ns), none⟩
      | none => r
  | .deleteNamespace name => { r with active := Function.update r.active name none }

@[simp] theorem prepared_name (r : Registry) (ref : Nat) (config : NamespaceConfig) :
    (r.prepared ref config).name = config.name := rfl

@[simp] theorem prepared_ref (r : Registry) (ref : Nat) (config : NamespaceConfig) :
    (r.prepared ref config).ref = ref := rfl

end Registry

/-- The manager's readable slot is the registry's map, its flag says whether a version is
pending, and its other slot holds the map that committing that version installs. -/
structure Refines (m : Manager) (r : Registry) : Prop where
  active : ∀ name, m.getNamespace name = r.active name
  reloadPrepared : m.reloadPrepared = r.pending.isSome
  other : ∀ ns, r.pending = some ns → ∀ name,
    (m.namespaces (!m.switchIndex)).getNamespace name =
      Function.update r.active ns.name (some ns) name

/-- A call the two-phase protocol admits: no present namespace is deleted while a reload
is prepared. -/
def Admissible (m : Manager) : Call → Prop
  | .deleteNamespace name => m.reloadPrepared = false ∨ m.getNamespace name = none
  | _ => True

/-- The manager states reachable from `CreateManager` by calls that each satisfy
`allowed`, paired with the registry those calls define. -/
inductive Reachable (allowed : Manager → Registry → Call → Prop) : Manager → Registry → Prop
  | create (built : NamespaceConfig → Bool) (configs : List NamespaceConfig) :
      Reachable allowed (Manager.createManager built configs)
        ⟨(Manager.createManager built configs).getNamespace, none⟩
  | step {m : Manager} {r : Registry} (c : Call) :
      Reachable allowed m r → allowed m r c → Reachable allowed (m.step c) (r.step m.nextRef c)

namespace Refines

variable {m : Manager} {r : Registry}

theorem create (built : NamespaceConfig → Bool) (configs : List NamespaceConfig) :
    Refines (Manager.createManager built configs)
      ⟨(Manager.createManager built configs).getNamespace, none⟩ :=
  ⟨fun _ => rfl, rfl, fun _ h => by cases h⟩

theorem step_prepare (h : Refines m r) (config : NamespaceConfig) (built : Bool) :
    Refines (m.step (.reloadNamespacePrepare config built))
      (r.step m.nextRef (.reloadNamespacePrepare config built)) := by
  cases built
  · exact h
  refine ⟨fun name => by simpa using h.active name, rfl, ?_⟩
  rintro ns hns name
  simp only [Registry.step, if_true, Option.some.injEq] at hns
  subst hns
  rw [Manager.step_prepare_switchIndex, Manager.getNamespace_other_step_prepare]
  by_cases hname : name = config.name
  · subst hname
    simp [Registry.step, Registry.prepared, h.active]
  · simp [Registry.step, hname, h.active]

theorem step_commit (h : Refines m r) (name : String) (ref : Nat) :
    Refines (m.step (.reloadNamespaceCommit name)) (r.step ref (.reloadNamespaceCommit name)) := by
  cases hpending : r.pending with
  | none =>
      have hprepared : m.reloadPrepared = false := by simpa [hpending] using h.reloadPrepared
      rw [Manager.step_commit_of_not_prepared name hprepared]
      simpa [Registry.step, hpending] using h
  | some ns =>
      have hprepared : m.reloadPrepared = true := by simpa [hpending] using h.reloadPrepared
      refine ⟨fun name' => ?_, ?_, fun _ hns => by simp [Registry.step, hpending] at hns⟩
      · rw [Manager.getNamespace_step_commit name hprepared, h.other ns hpending]
        simp [Registry.step, hpending]
      · simp [Registry.step, hpending, Manager.reloadPrepared_step_commit]

theorem step_delete (h : Refines m r) (name : String) (ref : Nat)
    (hadmissible : m.reloadPrepared = false ∨ m.getNamespace name = none) :
    Refines (m.step (.deleteNamespace name)) (r.step ref (.deleteNamespace name)) := by
  have hactive : ∀ name', (m.deleteNamespace name).getNamespace name' =
      Function.update r.active name none name' := by
    intro name'
    rw [Manager.getNamespace_deleteNamespace]
    by_cases hname : name' = name
    · subst hname; simp
    · simp [hname, h.active]
  rcases hadmissible with hprepared | hnone
  · have hpending : r.pending = none := by
      simpa [hprepared, Option.isSome_iff_ne_none] using h.reloadPrepared.symm
    exact ⟨hactive, by simp [hprepared, hpending, Registry.step],
      fun _ hns => by simp [Registry.step, hpending] at hns⟩
  · -- deleting an absent name changes neither side
    have hsame : ∀ name', Function.update r.active name none name' = r.active name' := by
      intro name'
      by_cases hname : name' = name
      · subst hname; simp [← h.active, hnone]
      · simp [hname]
    rw [Manager.step_delete, Manager.deleteNamespace_of_none hnone]
    refine ⟨fun name' => by simp [Registry.step, hsame, h.active], h.reloadPrepared,
      fun ns hns name' => ?_⟩
    simp only [Registry.step] at hns
    rw [h.other ns hns]
    by_cases hname : name' = ns.name
    · subst hname; simp
    · simp [hname, Registry.step, hsame]

/-- One admissible call keeps the refinement. -/
theorem step (h : Refines m r) (c : Call) (hc : Admissible m c) :
    Refines (m.step c) (r.step m.nextRef c) := by
  cases c with
  | reloadNamespacePrepare config built => exact h.step_prepare config built
  | reloadNamespaceCommit name => exact h.step_commit name m.nextRef
  | deleteNamespace name => exact h.step_delete name m.nextRef hc

end Refines

/-- Every state reached by admissible calls refines the registry. -/
theorem Reachable.refines {allowed : Manager → Registry → Call → Prop}
    (hallowed : ∀ m r c, allowed m r c → Admissible m c) {m : Manager} {r : Registry}
    (h : Reachable allowed m r) : Refines m r := by
  induction h with
  | create built configs => exact Refines.create built configs
  | step c _ hc ih => exact ih.step c (hallowed _ _ c hc)

/-- Admissible call sequences read, after every call, the single map of the registry. -/
theorem getNamespace_eq_registry {m : Manager} {r : Registry}
    (h : Reachable (fun m _ c => Admissible m c) m r) (name : String) :
    m.getNamespace name = r.active name :=
  (h.refines fun _ _ _ hc => hc).active name

/-- A prepare, its commit and the delete of another name: `A` reads its new version and `B`
is gone, on the manager as on the registry. -/
theorem getNamespace_eq_registry_after_reload :
    ∃ r, Reachable (fun m _ c => Admissible m c) ((Manager.createManager (fun _ => true)
        [⟨"A", []⟩, ⟨"B", []⟩]).run [.reloadNamespacePrepare ⟨"A", []⟩ true,
          .reloadNamespaceCommit "A", .deleteNamespace "B"]) r ∧
      ((Manager.createManager (fun _ => true) [⟨"A", []⟩, ⟨"B", []⟩]).run
        [.reloadNamespacePrepare ⟨"A", []⟩ true, .reloadNamespaceCommit "A",
          .deleteNamespace "B"]).getNamespace "A" = r.active "A" ∧
      ((Manager.createManager (fun _ => true) [⟨"A", []⟩, ⟨"B", []⟩]).run
        [.reloadNamespacePrepare ⟨"A", []⟩ true, .reloadNamespaceCommit "A",
          .deleteNamespace "B"]).getNamespace "B" = r.active "B" ∧
      (((Manager.createManager (fun _ => true) [⟨"A", []⟩, ⟨"B", []⟩]).run
        [.reloadNamespacePrepare ⟨"A", []⟩ true, .reloadNamespaceCommit "A",
          .deleteNamespace "B"]).getNamespace "A").map Namespace.namespaceChangeIndex = some 1 ∧
      ((Manager.createManager (fun _ => true) [⟨"A", []⟩, ⟨"B", []⟩]).run
        [.reloadNamespacePrepare ⟨"A", []⟩ true, .reloadNamespaceCommit "A",
          .deleteNamespace "B"]).getNamespace "B" = none :=
  have hreach := Reachable.step (.deleteNamespace "B")
    (.step (.reloadNamespaceCommit "A") (.step (.reloadNamespacePrepare ⟨"A", []⟩ true)
      (.create (fun _ => true) [⟨"A", []⟩, ⟨"B", []⟩]) trivial) trivial) (.inl rfl)
  ⟨_, hreach, getNamespace_eq_registry hreach "A", getNamespace_eq_registry hreach "B",
    by decide, by decide⟩

/-- A delete between a prepare and its commit: the delete removes `B`, the commit flips
back to the slot from before the delete, so the deleted `B` (pointer 1) is readable
again and `A` is still its first version (pointer 0, index 0), not the prepared one. -/
theorem commit_after_delete_restores_deleted :
    ((Manager.createManager (fun _ => true) [⟨"A", []⟩, ⟨"B", []⟩]).run
        [.reloadNamespacePrepare ⟨"A", []⟩ true, .deleteNamespace "B"]).getNamespace "B" = none ∧
      ((Manager.createManager (fun _ => true) [⟨"A", []⟩, ⟨"B", []⟩]).run
        [.reloadNamespacePrepare ⟨"A", []⟩ true, .deleteNamespace "B",
          .reloadNamespaceCommit "A"]).getNamespace "B" = some ⟨1, "B", 0⟩ ∧
      ((Manager.createManager (fun _ => true) [⟨"A", []⟩, ⟨"B", []⟩]).run
        [.reloadNamespacePrepare ⟨"A", []⟩ true, .deleteNamespace "B",
          .reloadNamespaceCommit "A"]).getNamespace "A" = some ⟨0, "A", 0⟩ := by
  decide

/-! ### Change indexes -/

/-- The pending version's change index is one more than that of the version it replaces. -/
def PendingIndexed (r : Registry) : Prop :=
  ∀ ns, r.pending = some ns → ns.namespaceChangeIndex = Manager.nextChangeIndex (r.active ns.name)

theorem PendingIndexed.step {m : Manager} {r : Registry} (hr : Refines m r)
    (h : PendingIndexed r) (c : Call) (hc : Admissible m c) :
    PendingIndexed (r.step m.nextRef c) := by
  cases c with
  | reloadNamespacePrepare config built =>
      cases built
      · exact h
      · intro ns hns
        simp only [Registry.step, if_true, Option.some.injEq] at hns
        subst hns
        rfl
  | reloadNamespaceCommit name =>
      cases hpending : r.pending with
      | none => simpa [Registry.step, hpending] using h
      | some ns => intro _ hns; simp [Registry.step, hpending] at hns
  | deleteNamespace name =>
      rcases hc with hprepared | hnone
      · have hpending : r.pending = none := by
          simpa [hprepared, Option.isSome_iff_ne_none] using hr.reloadPrepared.symm
        intro _ hns
        simp [Registry.step, hpending] at hns
      · intro ns hns
        rw [h ns hns]
        by_cases hname : ns.name = name
        · simp [Registry.step, hname, ← hr.active, hnone]
        · simp [Registry.step, hname]

theorem Reachable.pendingIndexed {m : Manager} {r : Registry}
    (h : Reachable (fun m _ c => Admissible m c) m r) : PendingIndexed r := by
  induction h with
  | create => intro _ h; cases h
  | step c hreach hc ih => exact ih.step (hreach.refines fun _ _ _ hc => hc) c hc

/-- Along admissible call sequences, a call either leaves `GetNamespace(name)` as it was,
removes it, or installs a version whose change index is one more (in `uint32`) than the
version it replaces, or one when there was none. -/
theorem getNamespace_step_changeIndex {m : Manager} {r : Registry}
    (h : Reachable (fun m _ c => Admissible m c) m r) (c : Call) (hc : Admissible m c)
    (name : String) :
    (m.step c).getNamespace name = m.getNamespace name ∨ (m.step c).getNamespace name = none ∨
      ∃ ns, (m.step c).getNamespace name = some ns ∧
        ns.namespaceChangeIndex = Manager.nextChangeIndex (m.getNamespace name) := by
  have hrefines := h.refines fun _ _ _ hc => hc
  rw [(hrefines.step c hc).active, hrefines.active]
  cases c with
  | reloadNamespacePrepare config built =>
      left
      cases built <;> rfl
  | reloadNamespaceCommit name' =>
      cases hpending : r.pending with
      | none => left; simp [Registry.step, hpending]
      | some ns =>
          by_cases hname : name = ns.name
          · subst hname
            exact .inr (.inr ⟨ns, by simp [Registry.step, hpending], h.pendingIndexed ns hpending⟩)
          · left; simp [Registry.step, hpending, hname]
  | deleteNamespace name' =>
      by_cases hname : name = name'
      · subst hname; right; left; simp [Registry.step]
      · left; simp [Registry.step, hname]

theorem getNamespace_step_changeIndex_commit :
    let m := (Manager.createManager (fun _ => true) [⟨"A", []⟩]).step
      (.reloadNamespacePrepare ⟨"A", []⟩ true)
    (m.step (.reloadNamespaceCommit "A")).getNamespace "A" = m.getNamespace "A" ∨
      (m.step (.reloadNamespaceCommit "A")).getNamespace "A" = none ∨
      ∃ ns, (m.step (.reloadNamespaceCommit "A")).getNamespace "A" = some ns ∧
        ns.namespaceChangeIndex = Manager.nextChangeIndex (m.getNamespace "A") :=
  getNamespace_step_changeIndex (.step (.reloadNamespacePrepare ⟨"A", []⟩ true) (.create _ _) trivial)
    (.reloadNamespaceCommit "A")
    trivial "A"

/-- Deleting a namespace and creating it again restarts its change index at one, below
the index of the version it had before the delete. -/
theorem recreated_namespace_restarts_changeIndex :
    let reload : List Call := [.reloadNamespacePrepare ⟨"A", []⟩ true, .reloadNamespaceCommit "A"]
    let m := (Manager.createManager (fun _ => true) [⟨"A", []⟩]).run (reload ++ reload)
    let m' := m.run (.deleteNamespace "A" :: reload)
    (m.getNamespace "A").map (·.namespaceChangeIndex) = some 2 ∧
      (m'.getNamespace "A").map (·.namespaceChangeIndex) = some 1 := by
  decide

end Gaea.Server
