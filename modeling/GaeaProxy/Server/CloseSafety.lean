import GaeaProxy.Server.ReloadProtocol

/-! # Closed namespaces stay unreachable

A commit hands to `Close` the current namespace of the name it is given, and a delete
the namespace it removes. When every commit names the configuration last prepared and
no present namespace is deleted while a reload is prepared, no closed namespace is
readable again: pointers are never reused, and each sits under one name.
-/

namespace Gaea.Server

/-- A commit, if the call is one, names the version that is pending. -/
def CommitsPending (r : Registry) : Call → Prop
  | .reloadNamespaceCommit name => ∀ ns, r.pending = some ns → ns.name = name
  | _ => True

/-- The pointers of the registry: below the allocation counter, one per name, closed ones
out of the map, and the pending version's one fresh. -/
structure CloseSafe (m : Manager) (r : Registry) : Prop where
  bounded : ∀ name ns, r.active name = some ns → ns.ref < m.nextRef
  unique : ∀ a b na nb, r.active a = some na → r.active b = some nb → na.ref = nb.ref → a = b
  closedBounded : ∀ ref ∈ m.closed, ref < m.nextRef
  closedGone : ∀ ref ∈ m.closed, ∀ name ns, r.active name = some ns → ns.ref ≠ ref
  pendingFresh : ∀ ns, r.pending = some ns → ns.ref < m.nextRef ∧ ns.ref ∉ m.closed ∧
    ∀ name na, r.active name = some na → na.ref ≠ ns.ref

theorem update_some_eq_some {f : String → Option Namespace} {a name : String}
    {v x : Namespace} (h : Function.update f a (some v) name = some x) :
    (name = a ∧ x = v) ∨ (name ≠ a ∧ f name = some x) := by
  by_cases hname : name = a
  · subst hname; simp at h; exact .inl ⟨rfl, h.symm⟩
  · rw [Function.update_noteq hname] at h; exact .inr ⟨hname, h⟩

theorem update_none_eq_some {f : String → Option Namespace} {a name : String} {x : Namespace}
    (h : Function.update f a none name = some x) : name ≠ a ∧ f name = some x := by
  by_cases hname : name = a
  · subst hname; simp at h
  · rw [Function.update_noteq hname] at h; exact ⟨hname, h⟩

/-- A pointer closed once the namespace at a name is handed to `Close` was closed before,
or is that namespace's. -/
theorem mem_closed {closed : List Nat} {current : Option Namespace} {ref : Nat}
    (href : ref ∈ match current with
      | some currentNamespace => currentNamespace.ref :: closed
      | none => closed) :
    ref ∈ closed ∨ ∃ ns, current = some ns ∧ ns.ref = ref := by
  cases current with
  | none => exact .inl href
  | some ns => exact (List.mem_cons.mp href).symm.imp_right fun href => ⟨ns, rfl, href.symm⟩

namespace CloseSafe

variable {m : Manager} {r : Registry}

theorem create (built : NamespaceConfig → Bool) (configs : List NamespaceConfig) :
    CloseSafe (Manager.createManager built configs)
      ⟨(Manager.createManager built configs).getNamespace, none⟩ := by
  obtain ⟨hbounded, hunique⟩ := NamespaceManager.createNamespaceManager_refsFresh built configs 0
  exact ⟨hbounded, hunique, fun _ h => (nomatch h), fun _ h => (nomatch h),
    fun _ h => (nomatch h)⟩

theorem step_prepare (h : CloseSafe m r) (config : NamespaceConfig) (built : Bool) :
    CloseSafe (m.step (.reloadNamespacePrepare config built))
      (r.step m.nextRef (.reloadNamespacePrepare config built)) := by
  cases built
  · exact h
  refine ⟨fun name ns hns => ?_, h.unique, fun ref href => ?_, h.closedGone, fun ns hns => ?_⟩
  · have := h.bounded name ns hns; simp; omega
  · have := h.closedBounded ref href; simp; omega
  · simp only [Registry.step, if_true, Option.some.injEq] at hns
    subst hns
    refine ⟨by simp, fun hmem => ?_, fun name na hna heq => ?_⟩
    · have := h.closedBounded _ (by simpa using hmem); simp at this
    · have := h.bounded name na hna; simp at heq; omega

theorem step_commit (hr : Refines m r) (h : CloseSafe m r) (name : String)
    (hcommit : CommitsPending r (.reloadNamespaceCommit name)) :
    CloseSafe (m.step (.reloadNamespaceCommit name))
      (r.step m.nextRef (.reloadNamespaceCommit name)) := by
  cases hpending : r.pending with
  | none =>
      have hprepared : m.reloadPrepared = false := by simpa [hpending] using hr.reloadPrepared
      rw [Manager.step_commit_of_not_prepared name hprepared]
      simpa [Registry.step, hpending] using h
  | some ns =>
      have hprepared : m.reloadPrepared = true := by simpa [hpending] using hr.reloadPrepared
      have hname : ns.name = name := hcommit ns hpending
      subst hname
      obtain ⟨hfreshBound, hfreshClosed, hfreshActive⟩ := h.pendingFresh ns hpending
      have hclosed := Manager.closed_step_commit ns.name hprepared
      rw [hr.active] at hclosed
      -- the map after the commit, and what its entries can be
      have hentry : ∀ n x, (r.step m.nextRef (.reloadNamespaceCommit ns.name)).active n = some x →
          (n = ns.name ∧ x = ns) ∨ (n ≠ ns.name ∧ r.active n = some x) := by
        intro n x hx
        simp only [Registry.step, hpending] at hx
        exact update_some_eq_some hx
      -- a pointer closed before the commit is not in the new map
      have hold : ∀ ref ∈ m.closed, ∀ n x,
          (r.step m.nextRef (.reloadNamespaceCommit ns.name)).active n = some x → x.ref ≠ ref := by
        intro ref href n x hx
        rcases hentry n x hx with ⟨-, hx⟩ | ⟨-, hx⟩
        · subst hx; exact fun heq => hfreshClosed (heq ▸ href)
        · exact h.closedGone ref href n x hx
      refine ⟨fun n x hx => ?_, fun a b na nb ha hb hab => ?_, fun ref href => ?_,
        fun ref href n x hx => ?_, fun _ hns => by simp [Registry.step, hpending] at hns⟩
      · rw [Manager.nextRef_step_commit]
        rcases hentry n x hx with ⟨-, hx⟩ | ⟨-, hx⟩
        · subst hx; exact hfreshBound
        · exact h.bounded _ _ hx
      · rcases hentry a na ha with ⟨ha1, ha2⟩ | ⟨-, ha'⟩ <;>
          rcases hentry b nb hb with ⟨hb1, hb2⟩ | ⟨-, hb'⟩
        · exact ha1.trans hb1.symm
        · subst ha2; exact absurd hab.symm (hfreshActive _ _ hb')
        · subst hb2; exact absurd hab (hfreshActive _ _ ha')
        · exact h.unique a b na nb ha' hb' hab
      · rw [Manager.nextRef_step_commit]
        rw [hclosed] at href
        rcases mem_closed href with href | ⟨current, hcurrent, rfl⟩
        · exact h.closedBounded ref href
        · exact h.bounded _ _ hcurrent
      · rw [hclosed] at href
        rcases mem_closed href with href | ⟨current, hcurrent, rfl⟩
        · exact hold ref href n x hx
        · rcases hentry n x hx with ⟨-, hx⟩ | ⟨hn, hx⟩
          · subst hx; exact fun heq => hfreshActive _ _ hcurrent heq.symm
          · exact fun heq => hn (h.unique _ _ _ _ hx hcurrent heq)

theorem step_delete (hr : Refines m r) (h : CloseSafe m r) (name : String)
    (hadmissible : m.reloadPrepared = false ∨ m.getNamespace name = none) :
    CloseSafe (m.step (.deleteNamespace name)) (r.step m.nextRef (.deleteNamespace name)) := by
  have hclosed := Manager.closed_deleteNamespace m name
  rw [hr.active] at hclosed
  have hentry : ∀ n x, (r.step m.nextRef (.deleteNamespace name)).active n = some x →
      n ≠ name ∧ r.active n = some x := fun n x hx => update_none_eq_some hx
  rw [Manager.step_delete]
  refine ⟨fun n x hx => ?_, fun a b na nb ha hb => h.unique a b na nb (hentry a na ha).2
    (hentry b nb hb).2, fun ref href => ?_, fun ref href n x hx => ?_, fun ns hns => ?_⟩
  · rw [Manager.nextRef_deleteNamespace]; exact h.bounded n x (hentry n x hx).2
  · rw [Manager.nextRef_deleteNamespace]
    rw [hclosed] at href
    rcases mem_closed href with href | ⟨current, hcurrent, rfl⟩
    · exact h.closedBounded ref href
    · exact h.bounded _ _ hcurrent
  · obtain ⟨hn, hx⟩ := hentry n x hx
    rw [hclosed] at href
    rcases mem_closed href with href | ⟨current, hcurrent, rfl⟩
    · exact h.closedGone ref href n x hx
    · exact fun heq => hn (h.unique _ _ _ _ hx hcurrent heq)
  · simp only [Registry.step] at hns
    obtain ⟨hbound, hnotClosed, hactive⟩ := h.pendingFresh ns hns
    refine ⟨by simpa using hbound, fun hmem => ?_, fun n x hx => hactive n x (hentry n x hx).2⟩
    rw [hclosed] at hmem
    rcases mem_closed hmem with hmem | ⟨current, hcurrent, -⟩
    · exact hnotClosed hmem
    · -- a present namespace is deleted only when no reload is prepared
      have hprepared : m.reloadPrepared = false :=
        hadmissible.resolve_right (by rw [hr.active, hcurrent]; exact Option.some_ne_none _)
      simp [hr.reloadPrepared, hns] at hprepared

theorem step (hr : Refines m r) (h : CloseSafe m r) (c : Call)
    (hc : Admissible m c ∧ CommitsPending r c) :
    CloseSafe (m.step c) (r.step m.nextRef c) := by
  cases c with
  | reloadNamespacePrepare config built => exact h.step_prepare config built
  | reloadNamespaceCommit name => exact h.step_commit hr name hc.2
  | deleteNamespace name => exact h.step_delete hr name hc.1

end CloseSafe

theorem Reachable.closeSafe {m : Manager} {r : Registry}
    (h : Reachable (fun m r c => Admissible m c ∧ CommitsPending r c) m r) : CloseSafe m r := by
  induction h with
  | create built configs => exact CloseSafe.create built configs
  | step c hreach hc ih => exact ih.step (hreach.refines fun _ _ _ hc => hc.1) c hc

/-- When every commit names the configuration last prepared and no present namespace is
deleted while a reload is prepared, no namespace handed to `Close` is readable again. -/
theorem closed_namespace_unreachable {m : Manager} {r : Registry}
    (h : Reachable (fun m r c => Admissible m c ∧ CommitsPending r c) m r)
    {name : String} {ns : Namespace} (hns : m.getNamespace name = some ns) :
    ns.ref ∉ m.closed := fun hmem =>
  h.closeSafe.closedGone ns.ref hmem name ns
    (((h.refines fun _ _ _ hc => hc.1).active name) ▸ hns) rfl

theorem closed_namespace_unreachable_after_reload :
    1 ∉ ((Manager.createManager (fun _ => true) [⟨"A", []⟩]).run
      [.reloadNamespacePrepare ⟨"A", []⟩ true, .reloadNamespaceCommit "A"]).closed :=
  @closed_namespace_unreachable _ _
    (.step (.reloadNamespaceCommit "A")
      (.step (.reloadNamespacePrepare ⟨"A", []⟩ true) (.create _ _) ⟨trivial, trivial⟩)
      ⟨trivial, fun _ h => by cases h; rfl⟩)
    "A" ⟨1, "A", 1⟩ (by decide)

/-- A commit given another name than the one prepared closes that other namespace, which
stays readable after the flip. -/
theorem commit_of_other_name_leaves_closed_readable :
    let m := (Manager.createManager (fun _ => true) [⟨"A", []⟩, ⟨"B", []⟩]).run
      [.reloadNamespacePrepare ⟨"A", []⟩ true, .reloadNamespaceCommit "B"]
    ∃ ns, m.getNamespace "B" = some ns ∧ ns.ref ∈ m.closed :=
  ⟨_, rfl, by decide⟩

end Gaea.Server
