import GaeaProxy.Server.LoadNamespaces

/-! # What loadAllNamespace returns

When `loadAllNamespace` returns, it returns an error exactly when the load of a listed
name failed, and otherwise the map of every listed namespace under its name. This holds
when each load returns the namespace of the name it was given: the collecting loop keys
the map by the loaded namespace's own name. Every name the dispatcher has sent is
collected, in a worker's hands, or failed with the error set.
-/

namespace Gaea.Server

/-- How many names the dispatcher has sent, out of `count`. -/
def Dispatcher.sent (count : Nat) : Dispatcher → Nat
  | .sending k => k
  | _ => count

theorem mem_set_of_ne {α : Type} {l : List α} {i : Nat} {a b w : α} (hi : l[i]? = some a)
    (hw : w ∈ l) (hne : w ≠ a) : w ∈ l.set i b := by
  obtain ⟨j, hj⟩ := List.mem_iff_getElem?.mp hw
  have hij : i ≠ j := by
    rintro rfl
    exact hne (Option.some.inj (hj.symm.trans hi))
  exact List.mem_iff_getElem?.mpr ⟨j, by rw [List.getElem?_set_ne hij, hj]⟩

namespace LoadState

variable {loadNamespace : String → Option NamespaceConfig} {names : List String}
  {s s' : LoadState}

/-- Where a name sent to the workers is: collected, being loaded, loaded and waiting to
be collected, or failed with the error set. -/
def Accounted (loadNamespace : String → Option NamespaceConfig) (s : LoadState)
    (name : String) : Prop :=
  ((loadNamespace name).isSome ∧ s.namespaceModels name = loadNamespace name) ∨
    Worker.loading name ∈ s.workers ∨
    (∃ ns, loadNamespace name = some ns ∧ Worker.sending ns ∈ s.workers) ∨
    (loadNamespace name = none ∧ s.err = true)

/-- The map holds loaded namespaces of listed names, workers hold listed names and their
loaded namespaces, an error comes from a failed load, every name sent is accounted for,
once done every worker has returned, and what is returned is the error or the map. -/
structure Collected (loadNamespace : String → Option NamespaceConfig) (names : List String)
    (s : LoadState) : Prop where
  models : ∀ name ns, s.namespaceModels name = some ns →
    name ∈ names ∧ loadNamespace name = some ns
  loading : ∀ name, Worker.loading name ∈ s.workers → name ∈ names
  sending : ∀ ns, Worker.sending ns ∈ s.workers →
    ns.name ∈ names ∧ loadNamespace ns.name = some ns
  err : s.err = true → ∃ name ∈ names, loadNamespace name = none
  sent : ∀ name ∈ names.take (s.dispatcher.sent names.length), Accounted loadNamespace s name
  done : s.dispatcher = .done → ∀ w ∈ s.workers, w = .exited
  returned : s.result.isSome → s.dispatcher = .done
  result : ∀ r, s.result = some r → r = if s.err then none else some s.namespaceModels

theorem Collected.start : Collected loadNamespace names (start names) := by
  refine ⟨fun _ _ h => (nomatch h), fun _ h => ?_, fun _ h => ?_, fun h => (nomatch h),
    fun _ h => (nomatch h), fun h => (nomatch h), fun h => (nomatch h), fun _ h => (nomatch h)⟩
  · cases List.eq_of_mem_replicate h
  · cases List.eq_of_mem_replicate h

/-- A step that keeps the map and the error and only takes a name-free worker's place
keeps every name accounted for. -/
theorem Accounted.of_keep {name : String} (h : Accounted loadNamespace s name)
    (hmodels : s'.namespaceModels = s.namespaceModels) (herr : s'.err = s.err)
    (hkeep : ∀ w ∈ s.workers, w ≠ .receiving → w ≠ .exited → w ∈ s'.workers) :
    Accounted loadNamespace s' name := by
  rcases h with ⟨hsome, hmodel⟩ | hloading | ⟨ns, hns, hsending⟩ | ⟨hnone, herror⟩
  · exact .inl ⟨hsome, hmodels ▸ hmodel⟩
  · exact .inr (.inl (hkeep _ hloading (fun h => (nomatch h)) (fun h => (nomatch h))))
  · exact .inr (.inr (.inl ⟨ns, hns,
      hkeep _ hsending (fun h => (nomatch h)) (fun h => (nomatch h))⟩))
  · exact .inr (.inr (.inr ⟨hnone, herr ▸ herror⟩))

section Step

variable (hname : ∀ name ns, loadNamespace name = some ns → ns.name = name)
include hname

/-- Every step keeps the collected state accounted for, when each load returns the
namespace of the name it was given. -/
theorem Collected.step (hinv : Inv loadNamespace names s) (h : Collected loadNamespace names s)
    {e : Event} (hstep : s.step loadNamespace e = some s') : Collected loadNamespace names s' := by
  obtain ⟨hmodels, hloading, hsending, herr, hsent, hdone, hreturned, hresult⟩ := h
  -- a worker that moves was not returned, so the function has not returned either
  have hopen : ∀ {i : Nat} {w : Worker}, s.workers[i]? = some w → w ≠ .exited →
      s.result = none := fun hw hne => by
    cases hr : s.result
    · rfl
    · exact absurd (hdone (hreturned (by simp [hr])) _ (List.mem_iff_getElem?.mpr ⟨_, hw⟩)) hne
  cases e with
  | dispatch i =>
      simp only [LoadState.step] at hstep
      split at hstep <;> try cases hstep
      next k hk =>
        split at hstep <;> try cases hstep
        next name hnamek hw =>
          rw [hinv.names_eq] at hnamek
          have hi := (List.getElem?_eq_some_iff.mp hw).1
          refine ⟨hmodels, fun n hn => ?_, fun ns hns => ?_, herr, fun n hn => ?_,
            fun h => (nomatch h), fun h => absurd (hreturned h) (by simp [hk]), hresult⟩
          · rcases List.mem_or_eq_of_mem_set hn with hn | hn
            · exact hloading n hn
            · cases hn
              exact List.mem_iff_getElem?.mpr ⟨k, hnamek⟩
          · rcases List.mem_or_eq_of_mem_set hns with hns | hns
            · exact hsending ns hns
            · cases hns
          · simp only [Dispatcher.sent, hk] at hsent hn
            rw [List.take_succ, hnamek, Option.toList_some, List.mem_append, List.mem_singleton] at hn
            rcases hn with hn | rfl
            · exact (hsent n hn).of_keep rfl rfl fun w hw' hr _ => mem_set_of_ne hw hw' hr
            · exact .inr (.inl (List.mem_set _ _ hi _))
  | closeNameC =>
      simp only [LoadState.step] at hstep
      split at hstep <;> try cases hstep
      split at hstep <;> cases hstep
      next k hk hlen =>
        refine ⟨hmodels, hloading, hsending, herr, fun n hn => hsent n ?_, fun h => (nomatch h),
          fun h => absurd (hreturned h) (by simp [hk]), hresult⟩
        simpa [Dispatcher.sent, hk, hlen, hinv.names_eq] using hn
  | rangeEnd i =>
      simp only [LoadState.step] at hstep
      split at hstep <;> cases hstep
      next hready =>
        have hkeep : ∀ w ∈ s.workers, w ≠ .receiving → w ∈ s.workers.set i .exited :=
          fun w hw hne => mem_set_of_ne hready.2 hw hne
        have hnew : ∀ w ∈ s.workers.set i .exited, w ∈ s.workers ∨ w = .exited :=
          fun w hw => List.mem_or_eq_of_mem_set hw
        refine ⟨hmodels, fun n hn => ?_, fun ns hns => ?_, herr,
          fun n hn => (hsent n hn).of_keep rfl rfl fun w hw hr _ => hkeep w hw hr,
          fun hd w hw => ?_, hreturned, hresult⟩
        · exact hloading n ((hnew _ hn).resolve_right (fun h => (nomatch h)))
        · exact hsending ns ((hnew _ hns).resolve_right (fun h => (nomatch h)))
        · exact (hnew w hw).elim (hdone hd w) id
  | load i =>
      simp only [LoadState.step] at hstep
      split at hstep <;> try cases hstep
      next name hw =>
        have hmemw := List.mem_iff_getElem?.mpr ⟨i, hw⟩
        have hnamemem := hloading name hmemw
        have hresult' := hopen hw (fun h => (nomatch h))
        have hnotDone : s.dispatcher ≠ .done := fun hd => nomatch hdone hd _ hmemw
        have hi := (List.getElem?_eq_some_iff.mp hw).1
        -- the other workers keep their places
        have hkeep : ∀ {w w'}, w ∈ s.workers → w ≠ .loading name → w ∈ s.workers.set i w' :=
          fun hw' hne => mem_set_of_ne hw hw' hne
        cases hload : loadNamespace name with
        | none =>
            simp only [hload] at hstep
            cases hstep
            refine ⟨hmodels, fun n hn => ?_, fun ns hns => ?_, fun _ => ⟨name, hnamemem, hload⟩,
              fun n hn => ?_, fun hd => absurd hd hnotDone, hreturned, fun r hr => ?_⟩
            · exact hloading n ((List.mem_or_eq_of_mem_set hn).resolve_right (fun h => (nomatch h)))
            · exact hsending ns ((List.mem_or_eq_of_mem_set hns).resolve_right (fun h => (nomatch h)))
            · rcases hsent n hn with ⟨hsome, hmodel⟩ | hl | ⟨ns, hns, hs⟩ | ⟨hnone, -⟩
              · exact .inl ⟨hsome, hmodel⟩
              · by_cases hn' : n = name
                · subst hn'
                  exact .inr (.inr (.inr ⟨hload, rfl⟩))
                · exact .inr (.inl (hkeep hl fun h => hn' (by cases h; rfl)))
              · exact .inr (.inr (.inl ⟨ns, hns, hkeep hs (fun h => (nomatch h))⟩))
              · exact .inr (.inr (.inr ⟨hnone, rfl⟩))
            · exact absurd (hresult'.symm.trans hr) (fun h => (nomatch h))
        | some ns =>
            simp only [hload] at hstep
            cases hstep
            have hnsname := hname name ns hload
            refine ⟨hmodels, fun n hn => ?_, fun ns' hns' => ?_, herr, fun n hn => ?_,
              fun hd => absurd hd hnotDone, hreturned, fun r hr => ?_⟩
            · exact hloading n ((List.mem_or_eq_of_mem_set hn).resolve_right (fun h => (nomatch h)))
            · rcases List.mem_or_eq_of_mem_set hns' with hns' | heq
              · exact hsending ns' hns'
              · cases heq
                rw [hnsname]
                exact ⟨hnamemem, hload⟩
            · rcases hsent n hn with
                ⟨hsome, hmodel⟩ | hl | ⟨ns', hns', hs⟩ | ⟨hnone, herror⟩
              · exact .inl ⟨hsome, hmodel⟩
              · by_cases hn' : n = name
                · subst hn'
                  exact .inr (.inr (.inl ⟨ns, hload, List.mem_set _ _ hi _⟩))
                · exact .inr (.inl (hkeep hl fun h => hn' (by cases h; rfl)))
              · exact .inr (.inr (.inl ⟨ns', hns', hkeep hs (fun h => (nomatch h))⟩))
              · exact .inr (.inr (.inr ⟨hnone, herror⟩))
            · exact absurd (hresult'.symm.trans hr) (fun h => (nomatch h))
  | deliver i =>
      simp only [LoadState.step] at hstep
      split at hstep <;> try cases hstep
      next ns hw _ =>
        have hmemw := List.mem_iff_getElem?.mpr ⟨i, hw⟩
        obtain ⟨hnsmem, hnsload⟩ := hsending ns hmemw
        have hresult' := hopen hw (fun h => (nomatch h))
        have hnotDone : s.dispatcher ≠ .done := fun hd => nomatch hdone hd _ hmemw
        have hkeep : ∀ {w}, w ∈ s.workers → w ≠ .sending ns →
            w ∈ s.workers.set i .receiving :=
          fun hw' hne => mem_set_of_ne hw hw' hne
        -- the collected map now holds `ns` under its name, which is the name it was loaded for
        have hmodel : ∀ n, loadNamespace n = some ns →
            Function.update s.namespaceModels ns.name (some ns) n = loadNamespace n := fun n hn => by
          obtain rfl := hname n ns hn
          rw [Function.update_same, hn]
        refine ⟨fun n x hx => ?_, fun n hn => ?_, fun ns' hns' => ?_, herr, fun n hn => ?_,
          fun hd => absurd hd hnotDone, hreturned, fun r hr => ?_⟩
        · dsimp only at hx
          by_cases hn : n = ns.name
          · subst hn
            rw [Function.update_same, Option.some.injEq] at hx
            subst hx
            exact ⟨hnsmem, hnsload⟩
          · rw [Function.update_noteq hn] at hx
            exact hmodels n x hx
        · exact hloading n ((List.mem_or_eq_of_mem_set hn).resolve_right (fun h => (nomatch h)))
        · exact hsending ns' ((List.mem_or_eq_of_mem_set hns').resolve_right (fun h => (nomatch h)))
        · rcases hsent n hn with ⟨hsome, hmodel'⟩ | hl | ⟨ns', hns', hs⟩ | ⟨hnone, herror⟩
          · refine .inl ⟨hsome, ?_⟩
            dsimp only
            by_cases hn' : n = ns.name
            · subst hn'
              rw [Function.update_same, hnsload]
            · rw [Function.update_noteq hn']
              exact hmodel'
          · exact .inr (.inl (hkeep hl (fun h => (nomatch h))))
          · by_cases hs' : ns' = ns
            · subst hs'
              exact .inl ⟨by simp [hns'], hmodel n hns'⟩
            · exact .inr (.inr (.inl ⟨ns', hns', hkeep hs fun h => hs' (by cases h; rfl)⟩))
          · exact .inr (.inr (.inr ⟨hnone, herror⟩))
        · exact absurd (hresult'.symm.trans hr) (fun h => (nomatch h))
  | closeNamespaceC =>
      simp only [LoadState.step] at hstep
      split at hstep <;> cases hstep
      next hready =>
        refine ⟨hmodels, hloading, hsending, herr, fun n hn => ?_, fun _ => hready.2, fun _ => rfl,
          hresult⟩
        simp only [Dispatcher.sent, hready.1] at hsent hn
        exact (hsent n hn).of_keep rfl rfl fun w hw _ _ => hw
  | collectEnd =>
      simp only [LoadState.step] at hstep
      split at hstep <;> cases hstep
      next hready =>
        -- `namespaceC` is closed only once the dispatcher is done
        have hd : s.dispatcher = .done := by
          cases hdisp : s.dispatcher with
          | sending k => simp [(hinv.sending k hdisp).2.2.1] at hready
          | waiting => simp [(hinv.waiting hdisp).2] at hready
          | done => rfl
        exact ⟨hmodels, hloading, hsending, herr, hsent, hdone, fun _ => hd,
          fun r hr => (Option.some.inj hr).symm⟩

theorem Reachable.collected (h : Reachable loadNamespace names s) :
    Collected loadNamespace names s := by
  induction h with
  | start => exact Collected.start
  | step _ hreach hstep ih => exact ih.step hname hreach.inv hstep

end Step

/-- When each load returns the namespace of the name it was given, `loadAllNamespace`
returns an error exactly when the load of a listed name failed, and otherwise the map of
every listed namespace under its name, and nothing else. -/
theorem loadAllNamespace_result (hname : ∀ name ns, loadNamespace name = some ns → ns.name = name)
    (h : Reachable loadNamespace names s) {r : Option (String → Option NamespaceConfig)}
    (hr : s.result = some r) :
    (r = none ↔ ∃ name ∈ names, loadNamespace name = none) ∧
      ∀ models, r = some models →
        ∀ name, models name = if name ∈ names then loadNamespace name else none := by
  have hc := h.collected hname
  have hd := hc.returned (by simp [hr])
  -- with every worker returned, each listed name was collected or failed with the error set
  have hlisted : ∀ name ∈ names, ((loadNamespace name).isSome ∧
      s.namespaceModels name = loadNamespace name) ∨ (loadNamespace name = none ∧ s.err = true) :=
    fun name hmem => by
      rcases hc.sent name (by simpa [Dispatcher.sent, hd] using hmem) with
        hcollected | hloading | ⟨_, _, hsending⟩ | hfailed
      · exact .inl hcollected
      · cases hc.done hd _ hloading
      · cases hc.done hd _ hsending
      · exact .inr hfailed
  have hres := hc.result r hr
  refine ⟨⟨fun hnone => ?_, fun ⟨name, hmem, hload⟩ => ?_⟩, fun models hmodels name => ?_⟩
  · cases herr : s.err
    · simp [herr, hnone] at hres
    · exact hc.err herr
  · rcases hlisted name hmem with ⟨hsome, -⟩ | ⟨-, herr⟩
    · simp [hload] at hsome
    · simpa [herr] using hres
  · cases herr : s.err
    · obtain rfl : models = s.namespaceModels := by simpa [herr, hmodels] using hres
      split
      next hmem =>
        rcases hlisted name hmem with ⟨-, hmodel⟩ | ⟨-, herr'⟩
        · exact hmodel
        · simp [herr] at herr'
      next hmem =>
        cases hmodel : s.namespaceModels name
        · rfl
        · exact absurd (hc.models name _ hmodel).1 hmem
    · simp [herr, hmodels] at hres

theorem loadAllNamespace_result_of_one_name :
    ∃ s, (start ["a"]).run (fun name => some ⟨name, []⟩)
        [.dispatch 0, .load 0, .deliver 0, .closeNameC, .rangeEnd 0, .rangeEnd 1, .rangeEnd 2,
          .rangeEnd 3, .rangeEnd 4, .rangeEnd 5, .rangeEnd 6, .rangeEnd 7, .rangeEnd 8, .rangeEnd 9,
          .closeNamespaceC, .collectEnd] = some s ∧
      ∃ r, s.result = some r ∧
        ((r = none ↔ ∃ name ∈ ["a"], (some ⟨name, []⟩ : Option NamespaceConfig) = none) ∧
          ∀ models, r = some models →
            ∀ name, models name = if name ∈ ["a"] then some ⟨name, []⟩ else none) :=
  ⟨_, rfl, _, rfl, @loadAllNamespace_result (fun name => some ⟨name, []⟩) ["a"] _
    (fun _ _ h => by cases h; rfl)
    (@Reachable.run _ _ _ _ .start
      [.dispatch 0, .load 0, .deliver 0, .closeNameC, .rangeEnd 0, .rangeEnd 1, .rangeEnd 2,
        .rangeEnd 3, .rangeEnd 4, .rangeEnd 5, .rangeEnd 6, .rangeEnd 7, .rangeEnd 8, .rangeEnd 9,
        .closeNamespaceC, .collectEnd] rfl) _ rfl⟩

end LoadState

end Gaea.Server
