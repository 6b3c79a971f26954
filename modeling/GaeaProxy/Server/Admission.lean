import Mathlib

/-! # Connection counting and the connection limit

`Handshake` rejects a session when `clientConnecions[namespace]` has reached
`maxClientConnections`, and `Run` later calls `IncrConnectionCount` and `DescConnectionCount`,
each a `Load` of the map followed by one atomic operation. The sessions of one namespace
interleave between these steps, so the count can lose an increment and the limit can be
passed by handshakes that all check before any session runs.
-/

namespace Gaea.Server

/-- The namespace's `sync.Map` entry, the pointer of its `atomic.Int32`, and the
counters by pointer. `nextPtr` is the pointer `atomic.NewInt32` allocates next. -/
structure Counters where
  entry : Option Nat
  cells : Nat → Int
  nextPtr : Nat

namespace Counters

/-- `StatisticManager` before any session: `clientConnecions` is empty. -/
def init : Counters := ⟨none, fun _ => 0, 0⟩

/-- `Store(namespace, atomic.NewInt32(1))`. -/
def store (c : Counters) : Counters :=
  ⟨some c.nextPtr, Function.update c.cells c.nextPtr 1, c.nextPtr + 1⟩

def inc (c : Counters) (ptr : Nat) : Counters :=
  { c with cells := Function.update c.cells ptr (c.cells ptr + 1) }

def dec (c : Counters) (ptr : Nat) : Counters :=
  { c with cells := Function.update c.cells ptr (c.cells ptr - 1) }

/-- The count `clientConnecions[namespace]` holds, zero when it is absent. -/
def stored (c : Counters) : Int :=
  match c.entry with
  | none => 0
  | some ptr => c.cells ptr

/-- `clientConnectionReachLimit`: no entry means the first connection. -/
def clientConnectionReachLimit (c : Counters) (maxClientConnections : Int) : Bool × Int :=
  match c.entry with
  | none => (false, 0)
  | some ptr =>
      if c.cells ptr ≥ maxClientConnections then (true, c.cells ptr) else (false, c.cells ptr)

end Counters

/-- Where a session of the namespace is: before the limit check of `Handshake`,
admitted and before `IncrConnectionCount`, inside it after a `Load` that found no
entry or the pointer `ptr`, running, inside `DescConnectionCount` after its `Load`,
and done. -/
inductive Phase where
  | handshake
  | admitted
  | incrStore
  | incrInc (ptr : Nat)
  | running
  | descDec (ptr : Nat)
  | exited
  | rejected
  deriving DecidableEq, Repr

namespace Phase

/-- The next atomic step of a session, `none` once it is done. A `Load` in
`DescConnectionCount` that finds no entry only logs. -/
def step (maxClientConnections : Int) (c : Counters) : Phase → Option (Counters × Phase)
  | .handshake =>
      some (c, if (c.clientConnectionReachLimit maxClientConnections).1 then .rejected
        else .admitted)
  | .admitted => some (c, match c.entry with
      | none => .incrStore
      | some ptr => .incrInc ptr)
  | .incrStore => some (c.store, .running)
  | .incrInc ptr => some (c.inc ptr, .running)
  | .running => some (c, match c.entry with
      | none => .exited
      | some ptr => .descDec ptr)
  | .descDec ptr => some (c.dec ptr, .exited)
  | .exited | .rejected => none

/-- Admitted by the check and not yet past `IncrConnectionCount`. -/
def inFlight : Phase → Bool
  | .admitted | .incrStore | .incrInc _ => true
  | _ => false

/-- Past `IncrConnectionCount` and not past `DescConnectionCount`: what the count
should hold. -/
def counted : Phase → Bool
  | .running | .descDec _ => true
  | _ => false

/-- Passed the limit check and not exited. -/
def live (p : Phase) : Bool :=
  p.inFlight || p.counted

/-- The pointer a session inside `IncrConnectionCount` or `DescConnectionCount` loaded. -/
def holds : Phase → Option Nat
  | .incrInc ptr | .descDec ptr => some ptr
  | _ => none

end Phase

/-- The counters and the phase of each session of the namespace. -/
structure Sessions where
  counters : Counters
  phases : List Phase

namespace Sessions

/-- Session `i` takes its next atomic step. -/
def step (maxClientConnections : Int) (w : Sessions) (i : Nat) : Option Sessions :=
  match w.phases[i]? with
  | none => none
  | some p => (p.step maxClientConnections w.counters).map fun next =>
      ⟨next.1, w.phases.set i next.2⟩

def run (maxClientConnections : Int) (w : Sessions) : List Nat → Option Sessions
  | [] => some w
  | i :: is => (w.step maxClientConnections i).bind fun w' => w'.run maxClientConnections is

/-- Sessions that completed `IncrConnectionCount` and did not start `DescConnectionCount`. -/
def running (w : Sessions) : Nat :=
  w.phases.count .running

end Sessions

theorem set_of_getElem? {α : Type} {l : List α} {i : Nat} {a : α} (h : l[i]? = some a) (b : α) :
    l = l.take i ++ a :: l.drop (i + 1) ∧ l.set i b = l.take i ++ b :: l.drop (i + 1) := by
  obtain ⟨hi, ha⟩ := List.getElem?_eq_some_iff.mp h
  refine ⟨?_, List.set_eq_take_cons_drop b hi⟩
  conv_lhs => rw [← List.take_append_drop i l, List.drop_eq_getElem_cons hi, ha]

/-- A step of session `i` changes its phase and the counters, and no other session. -/
theorem Sessions.step_eq_some {maxClientConnections : Int} {w w' : Sessions} {i : Nat}
    (h : w.step maxClientConnections i = some w') :
    ∃ pre post p q, w.phases[i]? = some p ∧ w.phases = pre ++ p :: post ∧
      w'.phases = pre ++ q :: post ∧ p.step maxClientConnections w.counters = some (w'.counters, q) := by
  unfold Sessions.step at h
  split at h
  · cases h
  next p hp =>
    obtain ⟨next, hnext, rfl⟩ := Option.map_eq_some'.mp h
    obtain ⟨hphases, hset⟩ := set_of_getElem? hp next.2
    exact ⟨_, _, p, next.2, hp, hphases, hset, hnext⟩

/-- The states the sessions reach from the empty map, each session starting at its
limit check, by steps that each satisfy `allowed`. -/
inductive Sessions.Reachable (maxClientConnections : Int) (allowed : Sessions → Nat → Prop) :
    Sessions → Prop
  | init (n : Nat) : Sessions.Reachable maxClientConnections allowed ⟨.init, List.replicate n .handshake⟩
  | step {w w' : Sessions} (i : Nat) : Sessions.Reachable maxClientConnections allowed w →
      allowed w i → w.step maxClientConnections i = some w' →
      Sessions.Reachable maxClientConnections allowed w'

/-- `run`, stopping at the first step that `allowed` refuses. -/
def Sessions.runIf (maxClientConnections : Int) (allowed : Sessions → Nat → Prop)
    [∀ w i, Decidable (allowed w i)] (w : Sessions) : List Nat → Option Sessions
  | [] => some w
  | i :: is => if allowed w i then
      (w.step maxClientConnections i).bind fun w' => w'.runIf maxClientConnections allowed is
    else none

/-- A run whose steps are all allowed stays reachable. -/
theorem Sessions.Reachable.runIf {maxClientConnections : Int} {allowed : Sessions → Nat → Prop}
    [∀ w i, Decidable (allowed w i)] {w : Sessions}
    (hw : Sessions.Reachable maxClientConnections allowed w) :
    ∀ {is : List Nat} {w' : Sessions}, w.runIf maxClientConnections allowed is = some w' →
      Sessions.Reachable maxClientConnections allowed w'
  | [], _, h => by cases h; exact hw
  | i :: is, w', h => by
      simp only [Sessions.runIf] at h
      split_ifs at h with hallowed
      obtain ⟨w'', hstep, hrest⟩ := Option.bind_eq_some.mp h
      exact (hw.step i hallowed hstep).runIf hrest

/-- No session `Load`s in `IncrConnectionCount` while another's first `Store` is pending. -/
def NoStoreRace (w : Sessions) (i : Nat) : Prop :=
  w.phases[i]? = some .admitted → .incrStore ∉ w.phases

instance (w : Sessions) (i : Nat) : Decidable (NoStoreRace w i) :=
  inferInstanceAs (Decidable (w.phases[i]? = some Phase.admitted → Phase.incrStore ∉ w.phases))

/-- What a session's phase says about the entry: before the first `Store` it is not
counted and holds no pointer; after it, it has no `Store` pending and holds only the
entry's pointer. -/
def Phase.Fits (entry : Option Nat) (p : Phase) : Prop :=
  match entry with
  | none => p.counted = false ∧ p.holds = none
  | some e => p ≠ .incrStore ∧ (p.holds = none ∨ p.holds = some e)

/-- At most one first `Store` pending, every session fitting the entry, and the entry's
counter equal to the number of counted sessions. -/
structure Exact (w : Sessions) : Prop where
  storesPending : w.phases.count .incrStore ≤ 1
  fits : ∀ p ∈ w.phases, p.Fits w.counters.entry
  exact : ∀ e, w.counters.entry = some e → w.counters.cells e = w.phases.countP Phase.counted

theorem Exact.init (n : Nat) : Exact ⟨.init, List.replicate n .handshake⟩ := by
  refine ⟨by simp [List.count_replicate], fun p hp => ?_, fun e he => by cases he⟩
  rw [List.eq_of_mem_replicate hp]
  exact ⟨rfl, rfl⟩

/-- A session after a step is the one that moved or one that did not. -/
theorem mem_replace {pre post : List Phase} {p q x : Phase} (hx : x ∈ pre ++ q :: post) :
    x = q ∨ (x ∈ pre ++ post ∧ x ∈ pre ++ p :: post) := by
  simp only [List.mem_append, List.mem_cons] at hx ⊢
  tauto

/-- Before the first `Store` no session is counted. -/
theorem Exact.countP_counted_of_none {w : Sessions} (h : Exact w) (hnone : w.counters.entry = none) :
    w.phases.countP Phase.counted = 0 :=
  List.countP_eq_zero.mpr fun p hp => by
    have := h.fits p hp
    simp only [hnone, Phase.Fits] at this
    simp [this.1]

/-- A step that keeps the entry, leaves no `Store` pending and moves the entry's counter
by the change in the number of counted sessions keeps the count exact. -/
theorem Exact.replace {c c' : Counters} {pre post : List Phase} {p q : Phase}
    (h : Exact ⟨c, pre ++ p :: post⟩) (hentry : c'.entry = c.entry) (hstore : q ≠ .incrStore)
    (hfits : q.Fits c.entry)
    (hcells : ∀ e, c.entry = some e →
      c'.cells e + (if p.counted then 1 else 0) = c.cells e + (if q.counted then 1 else 0)) :
    Exact ⟨c', pre ++ q :: post⟩ := by
  obtain ⟨hpending, hfits', hexact⟩ := h
  dsimp only at hpending hfits' hexact
  refine ⟨?_, fun x hx => ?_, fun e he => ?_⟩
  · simp only [List.count_append, List.count_cons, beq_iff_eq, hstore, if_false] at hpending ⊢
    omega
  · rw [hentry]
    rcases mem_replace hx with rfl | ⟨-, hx⟩
    · exact hfits
    · exact hfits' x hx
  · rw [hentry] at he
    have hmove := hcells e he
    have hcount := hexact e he
    revert hmove hcount
    simp only [List.countP_append, List.countP_cons]
    cases p.counted <;> cases q.counted <;> simp <;> omega

theorem Exact.fits_of_mem {w : Sessions} (h : Exact w) {pre post : List Phase} {p : Phase}
    (hw : w.phases = pre ++ p :: post) : p.Fits w.counters.entry :=
  h.fits p (by simp [hw])

/-- A session holding a pointer holds the entry's. -/
theorem Phase.Fits.entry_eq {entry : Option Nat} {p : Phase} {ptr : Nat} (h : p.Fits entry)
    (hholds : p.holds = some ptr) : entry = some ptr := by
  cases entry with
  | none => simp [Phase.Fits, hholds] at h
  | some e => simp only [Phase.Fits, hholds, reduceCtorEq, false_or, Option.some.injEq] at h; rw [h.2]

/-- With no `Load` racing a first `Store`, every step keeps the count exact. -/
theorem Exact.step {maxClientConnections : Int} {w w' : Sessions} {i : Nat} (h : Exact w)
    (hallowed : NoStoreRace w i) (hstep : w.step maxClientConnections i = some w') :
    Exact w' := by
  obtain ⟨pre, post, p, q, hget, hw, hw', hp⟩ := Sessions.step_eq_some hstep
  have hfits := h.fits_of_mem hw
  obtain ⟨c, phases⟩ := w
  obtain ⟨c', phases'⟩ := w'
  dsimp only at hw hw' hp hget hallowed hfits
  subst hw hw'
  cases p with
  | handshake =>
      simp only [Phase.step, Option.some.injEq, Prod.mk.injEq] at hp
      obtain ⟨rfl, rfl⟩ := hp
      split
      all_goals refine h.replace rfl ?_ ?_ (fun _ _ => by simp [Phase.counted])
      all_goals cases c.entry <;> simp [Phase.Fits, Phase.counted, Phase.holds]
  | admitted =>
      cases hentry : c.entry with
      | none =>
          simp only [Phase.step, hentry, Option.some.injEq, Prod.mk.injEq] at hp
          obtain ⟨rfl, rfl⟩ := hp
          have hnone := hallowed hget
          simp only [List.mem_append, List.mem_cons, not_or] at hnone
          refine ⟨?_, fun x hx => ?_, fun e he => by simp [hentry] at he⟩
          · simp [List.count_append, List.count_eq_zero.mpr hnone.1, List.count_eq_zero.mpr hnone.2.2]
          · rcases mem_replace hx with rfl | ⟨-, hx⟩
            · simp [hentry, Phase.Fits, Phase.counted, Phase.holds]
            · exact h.fits x hx
      | some e =>
          simp only [Phase.step, hentry, Option.some.injEq, Prod.mk.injEq] at hp
          obtain ⟨rfl, rfl⟩ := hp
          exact h.replace rfl (by simp) (by simp [hentry, Phase.Fits, Phase.holds])
            (fun _ _ => by simp [Phase.counted])
  | incrStore =>
      simp only [Phase.step, Option.some.injEq, Prod.mk.injEq] at hp
      obtain ⟨rfl, rfl⟩ := hp
      cases hentry : c.entry with
      | some e => simp [hentry, Phase.Fits] at hfits
      | none =>
          have hpending := h.storesPending
          simp only [List.count_append, List.count_cons_self] at hpending
          have hpre : Phase.incrStore ∉ pre := List.count_eq_zero.mp (by omega)
          have hpost : Phase.incrStore ∉ post := List.count_eq_zero.mp (by omega)
          -- before the first store no session is counted
          have hcounted := h.countP_counted_of_none hentry
          simp only [List.countP_append, List.countP_cons, Phase.counted, Bool.false_eq_true,
            if_false] at hcounted
          refine ⟨?_, fun x hx => ?_, fun e he => ?_⟩
          · simp [List.count_append, List.count_eq_zero.mpr hpre, List.count_eq_zero.mpr hpost]
          · simp only [Counters.store, Phase.Fits]
            rcases mem_replace hx with rfl | ⟨hother, hx⟩
            · simp [Phase.holds]
            · -- every other session holds nothing and has no `Store` pending
              have hfits := h.fits x hx
              simp only [hentry, Phase.Fits] at hfits
              refine ⟨fun hx' => ?_, .inl hfits.2⟩
              subst hx'
              exact (List.mem_append.mp hother).elim hpre hpost
          · simp only [Counters.store, Option.some.injEq] at he
            subst he
            simp only [Counters.store, Function.update_same, List.countP_append, List.countP_cons,
              Phase.counted, if_true]
            omega
  | incrInc ptr =>
      simp only [Phase.step, Option.some.injEq, Prod.mk.injEq] at hp
      obtain ⟨rfl, rfl⟩ := hp
      have hentry := hfits.entry_eq rfl
      exact h.replace rfl (by simp) (by simp [hentry, Phase.Fits, Phase.holds]) fun e he => by
        obtain rfl := Option.some.inj (he.symm.trans hentry)
        simp [Counters.inc, Phase.counted]
  | running =>
      cases hentry : c.entry with
      | none => simp [hentry, Phase.Fits, Phase.counted] at hfits
      | some e =>
          simp only [Phase.step, hentry, Option.some.injEq, Prod.mk.injEq] at hp
          obtain ⟨rfl, rfl⟩ := hp
          exact h.replace rfl (by simp) (by simp [hentry, Phase.Fits, Phase.holds])
            (fun _ _ => by simp [Phase.counted])
  | descDec ptr =>
      simp only [Phase.step, Option.some.injEq, Prod.mk.injEq] at hp
      obtain ⟨rfl, rfl⟩ := hp
      have hentry := hfits.entry_eq rfl
      exact h.replace rfl (by simp) (by simp [hentry, Phase.Fits, Phase.holds]) fun e he => by
        obtain rfl := Option.some.inj (he.symm.trans hentry)
        simp [Counters.dec, Phase.counted]
  | exited => simp [Phase.step] at hp
  | rejected => simp [Phase.step] at hp

theorem Sessions.Reachable.exact {maxClientConnections : Int} {w : Sessions}
    (h : Sessions.Reachable maxClientConnections NoStoreRace w) : Exact w := by
  induction h with
  | init n => exact Exact.init n
  | step i _ hallowed hstep ih => exact ih.step hallowed hstep

/-- When no `Load` of `IncrConnectionCount` races a first `Store`, the stored count is
always the number of sessions past `IncrConnectionCount` and not past
`DescConnectionCount`. -/
theorem stored_eq_counted_of_no_store_race {maxClientConnections : Int} {w : Sessions}
    (h : Sessions.Reachable maxClientConnections NoStoreRace w) :
    w.counters.stored = w.phases.countP Phase.counted := by
  have hexact := h.exact
  unfold Counters.stored
  split
  next hnone => simp [hexact.countP_counted_of_none hnone]
  next e he => exact hexact.exact e he

/-- Two sessions: the first is counted, the second is admitted under a limit of two and
counted, and the first exits; the counter holds the one session still counted. -/
theorem stored_eq_counted_after_incr_and_desc :
    ∃ w, Sessions.runIf 2 NoStoreRace ⟨.init, [.handshake, .handshake]⟩
        [0, 0, 0, 1, 1, 1, 0, 0] = some w ∧
      w.counters.stored = w.phases.countP Phase.counted ∧ w.phases.countP Phase.counted = 1 :=
  ⟨_, rfl, stored_eq_counted_of_no_store_race
    (@Sessions.Reachable.runIf 2 NoStoreRace _ _ (.init 2) [0, 0, 0, 1, 1, 1, 0, 0] _ rfl), rfl⟩

/-- Two sessions start `Run` on a namespace with no entry yet: both `Load`s find none,
both `Store` a counter of one, and the second replaces the first. Two sessions run
and the count says one; after both exit it says minus one, and stays one below from
then on. -/
theorem first_sessions_lose_increment :
    (((Sessions.run 0 ⟨.init, [.admitted, .admitted]⟩ [0, 1, 0, 1]).map
        fun w => (w.running, w.counters.stored)) = some (2, 1)) ∧
      (((Sessions.run 0 ⟨.init, [.admitted, .admitted]⟩ [0, 1, 0, 1, 0, 0, 1, 1]).map
        fun w => (w.running, w.counters.stored)) = some (0, -1)) := by
  decide

/-! ### The connection limit -/

/-- The limit check reads a count that only `Run` raises: with a limit of two, three
handshakes that all check before any session runs are all admitted, and the three sessions
then run with the count at three. -/
theorem handshakes_race_past_maxClientConnections :
    ((Sessions.run 2 ⟨.init, [.handshake, .handshake, .handshake]⟩
        [0, 1, 2, 0, 0, 1, 1, 2, 2]).map
        fun w => (w.phases.countP Phase.live, w.running, w.counters.stored)) = some (3, 3, 3) := by
  decide

end Gaea.Server
