import GaeaProxy.Server.Namespace

/-! # Loading every namespace at start-up

`loadAllNamespace` lists the namespace names, then a dispatcher goroutine sends them
on the unbuffered `nameC` to ten workers, each of which loads the namespaces it
receives and sends them on the unbuffered `namespaceC` to the collecting loop. A
worker returns at its first failed load. The dispatcher closes `nameC` after the last
name, waits for the workers and closes `namespaceC`, which ends the collecting loop.
Each step below is one rendezvous on a channel or one action of one goroutine.
-/

namespace Gaea.Server

/-- A worker: in `for name := range nameC`, in `LoadNamespace(name)`, blocked sending
its namespace on `namespaceC`, or returned. -/
inductive Worker where
  | receiving
  | loading (name : String)
  | sending (ns : NamespaceConfig)
  | exited
  deriving DecidableEq, Repr

/-- The dispatcher: about to send `names[k]`, or to close `nameC` once `k` reaches the
end; in `wg.Wait()`; done after `close(namespaceC)`. -/
inductive Dispatcher where
  | sending (k : Nat)
  | waiting
  | done
  deriving DecidableEq, Repr

/-- The goroutines of `loadAllNamespace` once `ListNamespace` returned `names`. The
collecting loop's map is `namespaceModels`; `result` is what the function returns,
`some none` being its error. -/
structure LoadState where
  names : List String
  dispatcher : Dispatcher
  nameCClosed : Bool
  namespaceCClosed : Bool
  workers : List Worker
  namespaceModels : String → Option NamespaceConfig
  err : Bool
  result : Option (Option (String → Option NamespaceConfig))

/-- A worker that returned, or that is loading a name whose load fails. -/
def Worker.failing (loadNamespace : String → Option NamespaceConfig) : Worker → Bool
  | .loading name => (loadNamespace name).isNone
  | .exited => true
  | _ => false

/-- What is left for a worker to do before it returns: each name costs a rendezvous on
`nameC`, a load and a rendezvous on `namespaceC`. -/
def Worker.weight : Worker → Nat
  | .receiving => 1
  | .loading _ => 3
  | .sending _ => 2
  | .exited => 0

/-- What is left for the dispatcher: four for each name still to send, and its two closes. -/
def Dispatcher.weight (count : Nat) : Dispatcher → Nat
  | .sending k => 4 * (count - k) + 2
  | .waiting => 1
  | .done => 0

namespace LoadState

/-- The state right after `ListNamespace`, with the ten workers started. -/
def start (names : List String) : LoadState :=
  ⟨names, .sending 0, false, false, List.replicate 10 .receiving, fun _ => none, false, none⟩

/-- The steps of the goroutines. -/
inductive Event where
  /-- the dispatcher's `nameC <- name` meets worker `i`'s receive -/
  | dispatch (i : Nat)
  /-- the dispatcher's `close(nameC)` after the last name -/
  | closeNameC
  /-- worker `i`'s range ends on the closed `nameC` -/
  | rangeEnd (i : Nat)
  /-- worker `i`'s `LoadNamespace` returns -/
  | load (i : Nat)
  /-- worker `i`'s `namespaceC <- namespace` meets the collecting loop -/
  | deliver (i : Nat)
  /-- `wg.Wait()` returns and the dispatcher closes `namespaceC` -/
  | closeNamespaceC
  /-- the collecting loop ends on the closed `namespaceC` and the function returns -/
  | collectEnd
  deriving DecidableEq, Repr

/-- One step, `LoadNamespace` answering `loadNamespace name` (`none`: an error);
`none` when the step is not enabled. -/
def step (loadNamespace : String → Option NamespaceConfig) (s : LoadState) :
    Event → Option LoadState
  | .dispatch i =>
      match s.dispatcher with
      | .sending k =>
          match s.names[k]?, s.workers[i]? with
          | some name, some .receiving =>
              some { s with dispatcher := .sending (k + 1), workers := s.workers.set i (.loading name) }
          | _, _ => none
      | _ => none
  | .closeNameC =>
      match s.dispatcher with
      | .sending k =>
          if k = s.names.length then some { s with dispatcher := .waiting, nameCClosed := true }
          else none
      | _ => none
  | .rangeEnd i =>
      if s.nameCClosed ∧ s.workers[i]? = some .receiving then
        some { s with workers := s.workers.set i .exited }
      else none
  | .load i =>
      match s.workers[i]? with
      | some (.loading name) =>
          match loadNamespace name with
          | some ns => some { s with workers := s.workers.set i (.sending ns) }
          | none => some { s with workers := s.workers.set i .exited, err := true }
      | _ => none
  | .deliver i =>
      match s.workers[i]?, s.namespaceCClosed with
      | some (.sending ns), false =>
          some { s with
            workers := s.workers.set i .receiving
            namespaceModels := Function.update s.namespaceModels ns.name (some ns) }
      | _, _ => none
  | .closeNamespaceC =>
      if s.dispatcher = .waiting ∧ ∀ w ∈ s.workers, w = .exited then
        some { s with dispatcher := .done, namespaceCClosed := true }
      else none
  | .collectEnd =>
      if s.namespaceCClosed ∧ s.result.isNone then
        some { s with result := some (if s.err then none else some s.namespaceModels) }
      else none

def run (loadNamespace : String → Option NamespaceConfig) (s : LoadState) :
    List Event → Option LoadState
  | [] => some s
  | e :: es => (s.step loadNamespace e).bind fun s' => s'.run loadNamespace es

/-- No goroutine can move and the function has not returned. -/
def Stuck (loadNamespace : String → Option NamespaceConfig) (s : LoadState) : Prop :=
  s.result = none ∧ ∀ e, s.step loadNamespace e = none

/-- Once every worker has returned while names remain to be sent, nothing can move:
the dispatcher's send on `nameC` has no receiver, so `nameC` stays open and nobody
closes `namespaceC`. -/
theorem stuck_of_workers_exited {loadNamespace : String → Option NamespaceConfig}
    {s : LoadState} {k : Nat} (hresult : s.result = none) (hdispatcher : s.dispatcher = .sending k)
    (hk : k < s.names.length) (hnameC : s.nameCClosed = false)
    (hnamespaceC : s.namespaceCClosed = false) (hworkers : ∀ w ∈ s.workers, w = .exited) :
    Stuck loadNamespace s := by
  have hworker : ∀ (i : Nat) (w : Worker), s.workers[i]? = some w → w = .exited :=
    fun i w h => hworkers w (List.mem_iff_getElem?.mpr ⟨i, h⟩)
  refine ⟨hresult, fun e => ?_⟩
  cases e with
  | dispatch i =>
      simp only [step, hdispatcher]
      split
      next heq => cases hworker _ _ heq
      next => rfl
  | closeNameC => simp [step, hdispatcher, Nat.ne_of_lt hk]
  | rangeEnd i => simp [step, hnameC]
  | load i =>
      simp only [step]
      split
      next heq => cases hworker _ _ heq
      next => rfl
  | deliver i =>
      simp only [step]
      split
      next heq _ => cases hworker _ _ heq
      next => rfl
  | closeNamespaceC => simp [step, hdispatcher]
  | collectEnd => simp [step, hnamespaceC]

/-- Eleven names and a store that fails every load: each of the ten workers takes one
name, fails and returns; the dispatcher waits forever to send the eleventh name, so it
never closes `namespaceC`, and the collecting loop waits forever too. -/
theorem eleven_failed_loads_deadlock :
    ∃ s, (start ["n0", "n1", "n2", "n3", "n4", "n5", "n6", "n7", "n8", "n9", "n10"]).run
        (fun _ => none) ((List.range 10).flatMap fun i => [.dispatch i, .load i]) = some s ∧
      Stuck (fun _ => none) s :=
  ⟨_, rfl, stuck_of_workers_exited rfl rfl (by decide) rfl rfl (by decide)⟩

/-! ### Where loadAllNamespace can stop -/

/-- The states `loadAllNamespace` reaches once `ListNamespace` returned `names`. -/
inductive Reachable (loadNamespace : String → Option NamespaceConfig) (names : List String) :
    LoadState → Prop
  | start : Reachable loadNamespace names (start names)
  | step {s s' : LoadState} (e : Event) : Reachable loadNamespace names s →
      s.step loadNamespace e = some s' → Reachable loadNamespace names s'

/-- The names among the first `k` whose load fails. -/
def failedAmong (loadNamespace : String → Option NamespaceConfig) (names : List String) (k : Nat) :
    Nat :=
  (names.take k).countP fun name => (loadNamespace name).isNone

/-- Ten workers; while the dispatcher is at name `k`, both channels are open and the
workers that returned or are failing a load are no more than the failed names it sent;
once it waits `nameC` is closed and `namespaceC` open; once done `namespaceC` is closed. -/
structure Inv (loadNamespace : String → Option NamespaceConfig) (names : List String)
    (s : LoadState) : Prop where
  names_eq : s.names = names
  length : s.workers.length = 10
  sending : ∀ k, s.dispatcher = .sending k → k ≤ names.length ∧ s.nameCClosed = false ∧
    s.namespaceCClosed = false ∧
    s.workers.countP (Worker.failing loadNamespace) ≤ failedAmong loadNamespace names k
  waiting : s.dispatcher = .waiting → s.nameCClosed = true ∧ s.namespaceCClosed = false
  done : s.dispatcher = .done → s.namespaceCClosed = true

variable {loadNamespace : String → Option NamespaceConfig} {names : List String}
  {s s' : LoadState}

theorem Inv.start : Inv loadNamespace names (start names) := by
  refine ⟨rfl, rfl, fun k hk => ?_, fun h => (nomatch h), fun h => (nomatch h)⟩
  cases hk
  simp [LoadState.start, List.countP_replicate, Worker.failing]

/-- Replacing worker `i` changes the number of failing workers as that worker changes. -/
theorem countP_failing_set (loadNamespace : String → Option NamespaceConfig)
    {workers : List Worker} {i : Nat} {w : Worker} (hw : workers[i]? = some w) (w' : Worker) :
    (workers.set i w').countP (Worker.failing loadNamespace) +
        (if w.failing loadNamespace then 1 else 0) =
      workers.countP (Worker.failing loadNamespace) +
        (if w'.failing loadNamespace then 1 else 0) := by
  obtain ⟨hi, rfl⟩ := List.getElem?_eq_some_iff.mp hw
  have hle := List.boole_getElem_le_countP (Worker.failing loadNamespace) workers i hi
  rw [List.countP_set _ _ _ _ hi]
  omega

/-- Sending name `k` adds it to the names sent. -/
theorem failedAmong_succ (loadNamespace : String → Option NamespaceConfig) {k : Nat} {name : String}
    (hname : names[k]? = some name) :
    failedAmong loadNamespace names (k + 1) =
      failedAmong loadNamespace names k + (if (loadNamespace name).isNone then 1 else 0) := by
  simp only [failedAmong, List.take_succ, hname, Option.toList_some, List.countP_append,
    List.countP_cons, List.countP_nil, Nat.zero_add]

/-- Every step keeps the invariant. -/
theorem Inv.step (h : Inv loadNamespace names s) {e : Event}
    (hstep : s.step loadNamespace e = some s') : Inv loadNamespace names s' := by
  obtain ⟨hnames, hlength, hsending, hwaiting, hdone⟩ := h
  cases e with
  | dispatch i =>
      simp only [LoadState.step] at hstep
      split at hstep <;> try cases hstep
      next k hk =>
        split at hstep <;> try cases hstep
        next name hname hw =>
          obtain ⟨hle, hnameC, hnamespaceC, hfailing⟩ := hsending k hk
          have hset := countP_failing_set loadNamespace hw (.loading name)
          rw [hnames] at hname
          have hsucc := failedAmong_succ loadNamespace hname
          have hlt := (List.getElem?_eq_some_iff.mp hname).1
          refine ⟨hnames, by simpa using hlength, fun k' hk' => ?_, fun h => (nomatch h),
            fun h => (nomatch h)⟩
          cases hk'
          refine ⟨hlt, hnameC, hnamespaceC, ?_⟩
          simp only [Worker.failing, Bool.false_eq_true, if_false] at hset
          dsimp only
          omega
  | closeNameC =>
      simp only [LoadState.step] at hstep
      split at hstep <;> try cases hstep
      next k hk =>
        split at hstep <;> cases hstep
        obtain ⟨-, -, hnamespaceC, -⟩ := hsending k hk
        exact ⟨hnames, hlength, fun _ h => (nomatch h), fun _ => ⟨rfl, hnamespaceC⟩,
          fun h => (nomatch h)⟩
  | rangeEnd i =>
      simp only [LoadState.step] at hstep
      split at hstep <;> cases hstep
      next hready =>
        refine ⟨hnames, by simpa using hlength, fun k hk => ?_, hwaiting, hdone⟩
        have := (hsending k hk).2.1
        simp [this] at hready
  | load i =>
      simp only [LoadState.step] at hstep
      split at hstep <;> try cases hstep
      next name hw =>
        -- a load keeps the worker failing or not
        have hkeep : ∀ w', w'.failing loadNamespace = (Worker.loading name).failing loadNamespace →
            (s.workers.set i w').countP (Worker.failing loadNamespace) =
              s.workers.countP (Worker.failing loadNamespace) := fun w' hw' => by
          have := countP_failing_set loadNamespace hw w'
          rw [hw'] at this
          omega
        cases hload : loadNamespace name <;> simp only [hload] at hstep <;> cases hstep
        · refine ⟨hnames, by simpa using hlength, fun k hk => ?_, hwaiting, hdone⟩
          rw [hkeep .exited (by simp [Worker.failing, hload])]
          exact hsending k hk
        · refine ⟨hnames, by simpa using hlength, fun k hk => ?_, hwaiting, hdone⟩
          rw [hkeep (.sending _) (by simp [Worker.failing, hload])]
          exact hsending k hk
  | deliver i =>
      simp only [LoadState.step] at hstep
      split at hstep <;> try cases hstep
      next ns hw _ =>
        have hset := countP_failing_set loadNamespace hw .receiving
        simp only [Worker.failing, Bool.false_eq_true, if_false, Nat.add_zero] at hset
        refine ⟨hnames, by simpa using hlength, fun k hk => ?_, hwaiting, hdone⟩
        dsimp only at hk ⊢
        rw [hset]
        exact hsending k hk
  | closeNamespaceC =>
      simp only [LoadState.step] at hstep
      split at hstep <;> cases hstep
      exact ⟨hnames, hlength, fun _ h => (nomatch h), fun h => (nomatch h), fun _ => rfl⟩
  | collectEnd =>
      simp only [LoadState.step] at hstep
      split at hstep <;> cases hstep
      exact ⟨hnames, hlength, hsending, hwaiting, hdone⟩

theorem Reachable.inv (h : Reachable loadNamespace names s) : Inv loadNamespace names s := by
  induction h with
  | start => exact Inv.start
  | step _ _ hstep ih => exact ih.step hstep

theorem Reachable.run (h : Reachable loadNamespace names s) {es : List Event}
    (hrun : s.run loadNamespace es = some s') : Reachable loadNamespace names s' := by
  induction es generalizing s with
  | nil => cases hrun; exact h
  | cons e es ih =>
      obtain ⟨s₁, hstep, hrun⟩ := Option.bind_eq_some.mp hrun
      exact ih (h.step e hstep) hrun

/-- In a state of the invariant, nothing can move only when every worker has returned
while the dispatcher still has a name to send. -/
theorem Inv.stuck (h : Inv loadNamespace names s) (hstuck : Stuck loadNamespace s) :
    ∃ k, s.dispatcher = .sending k ∧ k < names.length ∧ ∀ w ∈ s.workers, w = .exited := by
  obtain ⟨hresult, hnone⟩ := hstuck
  -- once `namespaceC` is closed the collecting loop returns
  have hopen : s.namespaceCClosed = false := by
    cases hc : s.namespaceCClosed
    · rfl
    · have := hnone .collectEnd; simp [LoadState.step, hc, hresult] at this
  -- once every name is sent the dispatcher closes `nameC`
  have hsent : ∀ k, s.dispatcher = .sending k → k < names.length := fun k hd => by
    rcases Nat.lt_or_eq_of_le (h.sending k hd).1 with hlt | heq
    · exact hlt
    · have := hnone .closeNameC; simp [LoadState.step, hd, h.names_eq, heq] at this
  -- a worker that has not returned can move
  have hexited : ∀ w ∈ s.workers, w = .exited := by
    intro w hw
    obtain ⟨i, hi⟩ := List.mem_iff_getElem?.mp hw
    cases w with
    | exited => rfl
    | loading name =>
        have := hnone (.load i)
        simp only [LoadState.step, hi] at this
        split at this <;> cases this
    | sending ns => have := hnone (.deliver i); simp [LoadState.step, hi, hopen] at this
    | receiving =>
        cases hd : s.dispatcher with
        | sending k =>
            have := hnone (.dispatch i)
            simp [LoadState.step, hd, hi, h.names_eq, List.getElem?_eq_getElem (hsent k hd)] at this
        | waiting => have := hnone (.rangeEnd i); simp [LoadState.step, (h.waiting hd).1, hi] at this
        | done => simp [h.done hd] at hopen
  cases hd : s.dispatcher with
  | sending k => exact ⟨k, rfl, hsent k hd, hexited⟩
  | waiting =>
      have := hnone .closeNamespaceC
      simp only [LoadState.step] at this
      rw [if_pos ⟨hd, hexited⟩] at this
      cases this
  | done => simp [h.done hd] at hopen

/-- Ten returned workers while the dispatcher is at name `k` took ten failed loads among
the names sent. -/
theorem Inv.ten_le_failedAmong (h : Inv loadNamespace names s) {k : Nat}
    (hd : s.dispatcher = .sending k) (hexited : ∀ w ∈ s.workers, w = .exited) :
    10 ≤ failedAmong loadNamespace names k := by
  have hall : s.workers.countP (Worker.failing loadNamespace) = 10 := by
    rw [List.countP_eq_length.mpr fun w hw => by simp [hexited w hw, Worker.failing], h.length]
  have := (h.sending k hd).2.2.2
  omega

/-- `loadAllNamespace` stops for good only when all ten workers have returned while the
dispatcher still has a name to send, which takes ten names among those sent whose load
failed: with fewer failed loads some goroutine can always move. -/
theorem stuck_only_after_ten_failed_loads (h : Reachable loadNamespace names s)
    (hstuck : Stuck loadNamespace s) :
    ∃ k, s.dispatcher = .sending k ∧ k < names.length ∧ (∀ w ∈ s.workers, w = .exited) ∧
      10 ≤ failedAmong loadNamespace names k := by
  obtain ⟨k, hd, hk, hexited⟩ := h.inv.stuck hstuck
  exact ⟨k, hd, hk, hexited, h.inv.ten_le_failedAmong hd hexited⟩

/-! ### Every run ends -/

/-- A bound on the steps left: the dispatcher's, the workers' and the collecting loop's. -/
def measure (s : LoadState) : Nat :=
  s.dispatcher.weight s.names.length + (s.workers.map Worker.weight).sum +
    if s.result.isNone then 1 else 0

theorem sum_map_weight_set : ∀ {workers : List Worker} {i : Nat} {w : Worker},
    workers[i]? = some w → ∀ w', ((workers.set i w').map Worker.weight).sum + w.weight =
      (workers.map Worker.weight).sum + w'.weight
  | _ :: _, 0, _, h, _ => by
      simp only [List.getElem?_cons_zero, Option.some.injEq] at h
      subst h
      simp only [List.set_cons_zero, List.map_cons, List.sum_cons]
      omega
  | _ :: _, _ + 1, _, h, w' => by
      have := sum_map_weight_set (List.getElem?_cons_succ ▸ h) w'
      simp only [List.set_cons_succ, List.map_cons, List.sum_cons]
      omega

/-- Every step lowers the measure. -/
theorem measure_step {e : Event} (hstep : s.step loadNamespace e = some s') :
    s'.measure < s.measure := by
  cases e with
  | dispatch i =>
      simp only [LoadState.step] at hstep
      split at hstep <;> try cases hstep
      split at hstep <;> try cases hstep
      next k _ name hname hw =>
        have hset := sum_map_weight_set hw (.loading name)
        have hlt := (List.getElem?_eq_some_iff.mp hname).1
        simp only [measure, Dispatcher.weight, Worker.weight, *] at hset ⊢
        omega
  | closeNameC =>
      simp only [LoadState.step] at hstep
      split at hstep <;> try cases hstep
      split at hstep <;> cases hstep
      next hd _ => simp only [measure, Dispatcher.weight, hd]; omega
  | rangeEnd i =>
      simp only [LoadState.step] at hstep
      split at hstep <;> cases hstep
      next hready =>
        have hset := sum_map_weight_set hready.2 .exited
        simp only [measure, Worker.weight] at hset ⊢
        omega
  | load i =>
      simp only [LoadState.step] at hstep
      split at hstep <;> try cases hstep
      next name hw =>
        cases hload : loadNamespace name with
        | none =>
            simp only [hload] at hstep
            cases hstep
            have hset := sum_map_weight_set hw .exited
            simp only [measure, Worker.weight] at hset ⊢
            omega
        | some ns =>
            simp only [hload] at hstep
            cases hstep
            have hset := sum_map_weight_set hw (.sending ns)
            simp only [measure, Worker.weight] at hset ⊢
            omega
  | deliver i =>
      simp only [LoadState.step] at hstep
      split at hstep <;> try cases hstep
      next ns hw _ =>
        have hset := sum_map_weight_set hw .receiving
        simp only [measure, Worker.weight] at hset ⊢
        omega
  | closeNamespaceC =>
      simp only [LoadState.step] at hstep
      split at hstep <;> cases hstep
      next hready => simp only [measure, Dispatcher.weight, hready.1]; omega
  | collectEnd =>
      simp only [LoadState.step] at hstep
      split at hstep <;> cases hstep
      next hready =>
        simp only [measure, hready.2, if_true, Option.isNone_some, Bool.false_eq_true, if_false]
        omega

/-- A run takes at most as many steps as the measure it starts from. -/
theorem run_length_le {es : List Event} (hrun : s.run loadNamespace es = some s') :
    es.length + s'.measure ≤ s.measure := by
  induction es generalizing s with
  | nil => cases hrun; simp
  | cons e es ih =>
      obtain ⟨s₁, hstep, hrun⟩ := Option.bind_eq_some.mp hrun
      have := ih hrun
      have := measure_step hstep
      simp only [List.length_cons]
      omega

theorem stuck_only_after_ten_failed_loads_of_eleven :
    ∃ s, (start ["n0", "n1", "n2", "n3", "n4", "n5", "n6", "n7", "n8", "n9", "n10"]).run
        (fun _ => none) ((List.range 10).flatMap fun i => [.dispatch i, .load i]) = some s ∧
      ∃ k, s.dispatcher = .sending k ∧ k < 11 ∧ (∀ w ∈ s.workers, w = .exited) ∧
        10 ≤ failedAmong (fun _ => none)
          ["n0", "n1", "n2", "n3", "n4", "n5", "n6", "n7", "n8", "n9", "n10"] k :=
  ⟨_, rfl, @stuck_only_after_ten_failed_loads (fun _ => none)
    ["n0", "n1", "n2", "n3", "n4", "n5", "n6", "n7", "n8", "n9", "n10"] _
    (@Reachable.run _ _ _ _ .start ((List.range 10).flatMap fun i => [.dispatch i, .load i]) rfl)
    (stuck_of_workers_exited rfl rfl (by decide) rfl rfl (by decide))⟩

theorem measure_start (names : List String) : (start names).measure = 4 * names.length + 13 := by
  simp [measure, LoadState.start, Dispatcher.weight, Worker.weight]

/-- With fewer than ten names whose load fails, `loadAllNamespace` always returns: every
run takes at most `4·n + 13` steps, and a run that cannot go on has returned. -/
theorem loadAllNamespace_returns_of_fewer_than_ten_failed_loads
    (hfew : names.countP (fun name => (loadNamespace name).isNone) < 10) :
    (∀ es s, (start names).run loadNamespace es = some s → es.length ≤ 4 * names.length + 13) ∧
      ∀ es s, (start names).run loadNamespace es = some s →
        (∀ e, s.step loadNamespace e = none) → s.result.isSome := by
  refine ⟨fun es s hrun => ?_, fun es s hrun hnone => ?_⟩
  · have := run_length_le hrun
    rw [measure_start] at this
    omega
  · have hinv := (Reachable.start.run hrun).inv
    by_contra hresult
    obtain ⟨k, hd, -, hexited⟩ := hinv.stuck ⟨by simpa using hresult, hnone⟩
    have hten := hinv.ten_le_failedAmong hd hexited
    have hsent : failedAmong loadNamespace names k ≤
        names.countP (fun name => (loadNamespace name).isNone) :=
      (List.take_sublist k names).countP_le _
    omega

theorem loadAllNamespace_returns_of_one_failed_load :
    (∀ es s, (start ["a", "b"]).run (fun name => if name = "a" then none else some ⟨name, []⟩) es =
        some s → es.length ≤ 4 * 2 + 13) ∧
      ∀ es s, (start ["a", "b"]).run (fun name => if name = "a" then none else some ⟨name, []⟩) es =
          some s → (∀ e, s.step (fun name => if name = "a" then none else some ⟨name, []⟩) e = none) →
        s.result.isSome :=
  @loadAllNamespace_returns_of_fewer_than_ten_failed_loads
    (fun name => if name = "a" then none else some ⟨name, []⟩) ["a", "b"] (by decide)

end LoadState

end Gaea.Server
