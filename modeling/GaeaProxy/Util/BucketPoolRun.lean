import GaeaProxy.Util.BucketIndex

/-! # Gets and puts on a bucket pool

A client gets buffers and puts back buffers it got. Along any such run from the pool
`New` builds, no call panics, each bucket holds only buffers of exactly its size, each
`Get(size)` returns a slice of length `size`, and each `Put` sends its buffer back to
the bucket it came from or drops it. The bucket a held buffer came from, and a log of
the calls, are ghost state.
-/

namespace Gaea.Util.Bucketpool

/-- A buffer the client holds, with the bucket it came from; `none` for a slice made
for a size above `maxSize`. -/
structure Held where
  buf : Buffer
  origin : Option Nat
  deriving DecidableEq, Repr

/-- A call of the client: `Get(size)`, `sync.Pool` returning the buffer it holds at
`pick`, or `Put` of the `i`-th buffer the client holds. -/
inductive Op where
  | get (size : Nat) (pick : Option Nat)
  | put (i : Nat)
  deriving DecidableEq, Repr

/-- The pool, the buffers the client holds, every `Get` with the size asked for and the
slice returned, and every `Put` with the bucket its buffer came from and the one `Put`
wrote it to. -/
structure World where
  pool : Pool
  held : List Held
  gets : List (Nat × Buffer)
  puts : List (Option Nat × Option Nat)

namespace World

def step (w : World) : Op → Option World
  | .get size pick => (w.pool.get size pick).map fun r =>
      ⟨r.1, w.held ++ [⟨r.2, (w.pool.findPool size).bind id⟩], w.gets ++ [(size, r.2)], w.puts⟩
  | .put i =>
      match w.held[i]? with
      | none => some w
      | some h => (w.pool.put h.buf).map fun (p, bucket) =>
          ⟨p, w.held.eraseIdx i, w.gets, w.puts ++ [(h.origin, bucket)]⟩

def run (w : World) : List Op → Option World
  | [] => some w
  | op :: ops => (w.step op).bind fun w' => w'.run ops

end World

/-- A held buffer has the size of the bucket it came from, or is larger than `maxSize`. -/
def Held.Fits (minSize maxSize count : Nat) (h : Held) : Prop :=
  match h.origin with
  | some j => j ≤ count ∧ h.buf.cap = bucketSize minSize maxSize count j
  | none => maxSize < h.buf.cap

/-- The pool keeps its buckets; each bucket holds buffers of exactly its size; held
buffers fit their origin; every `Get` returned a slice of the length asked for within
its capacity; every `Put` went back to the bucket its buffer came from. -/
structure Inv (minSize maxSize count : Nat) (w : World) : Prop where
  shaped : w.pool.Shaped minSize maxSize count
  pooled : ∀ (j : Nat) (sp : SizedPool), w.pool.pools[j]? = some sp →
    ∀ b ∈ sp.free, b.len = b.cap ∧ (b.cap : Int) = sp.size
  held : ∀ h ∈ w.held, h.Fits minSize maxSize count
  gets : ∀ g ∈ w.gets, g.2.len = g.1 ∧ g.1 ≤ g.2.cap
  puts : ∀ r ∈ w.puts, r.2 = r.1

theorem set_getElem?_self {α : Type} {l : List α} {i : Nat} {x : α} (h : l[i]? = some x) :
    l.set i x = l := by
  apply List.ext_getElem?
  intro j
  rw [List.getElem?_set]
  split
  · subst j
    rw [if_pos (List.getElem?_eq_some_iff.mp h).1, h]
  · rfl

/-- `sync.Pool.Get` on a bucket holding only buffers of its size returns one of its size,
and leaves the bucket with fewer buffers. -/
theorem SizedPool.get_spec {sp : SizedPool}
    (hfree : ∀ b ∈ sp.free, b.len = b.cap ∧ (b.cap : Int) = sp.size) (hsize : 0 ≤ sp.size)
    (pick : Option Nat) :
    ∃ sp' buf, sp.get pick = some (sp', buf) ∧ (buf.cap : Int) = sp.size ∧ sp'.size = sp.size ∧
      ∀ b ∈ sp'.free, b ∈ sp.free := by
  have hnew : makeSlicePointer sp.size = some ⟨sp.size.toNat, sp.size.toNat⟩ := by
    simp [makeSlicePointer, hsize]
  have hcap : ((sp.size.toNat : Nat) : Int) = sp.size := Int.toNat_of_nonneg hsize
  cases pick with
  | none =>
      exact ⟨sp, ⟨sp.size.toNat, sp.size.toNat⟩, by simp [SizedPool.get, hnew], hcap, rfl,
        fun _ hb => hb⟩
  | some i =>
      cases hbuf : sp.free[i]? with
      | none =>
          exact ⟨sp, ⟨sp.size.toNat, sp.size.toNat⟩, by simp [SizedPool.get, hbuf, hnew], hcap, rfl,
            fun _ hb => hb⟩
      | some buf =>
          exact ⟨⟨sp.size, sp.free.eraseIdx i⟩, buf, by simp [SizedPool.get, hbuf],
            (hfree buf (List.mem_iff_getElem?.mpr ⟨i, hbuf⟩)).2, rfl,
            fun _ hb => List.mem_of_mem_eraseIdx hb⟩

theorem Pool.Shaped.set {p : Pool} {minSize maxSize count : Nat}
    (h : p.Shaped minSize maxSize count) {j : Nat} {sp sp' : SizedPool}
    (hsp : p.pools[j]? = some sp) (hsize : sp'.size = sp.size) :
    ({ p with pools := p.pools.set j sp' } : Pool).Shaped minSize maxSize count := by
  refine ⟨h.minSize_eq, h.maxSize_eq, ?_, h.buckets, h.pos, h.le, h.lt⟩
  rw [List.map_set, hsize, set_getElem?_self (by simp [hsp]), h.sizes]

/-- Writing one bucket that satisfies a property keeps it true of every bucket. -/
theorem forall_getElem?_set {pools : List SizedPool} {P : SizedPool → Prop}
    (hpools : ∀ (j : Nat) (sp : SizedPool), pools[j]? = some sp → P sp) {j : Nat} {sp' : SizedPool}
    (hsp' : P sp') : ∀ (k : Nat) (sp : SizedPool), (pools.set j sp')[k]? = some sp → P sp := by
  intro k sp hk
  rw [List.getElem?_set] at hk
  split at hk
  · split at hk
    · cases hk; exact hsp'
    · cases hk
  · exact hpools k sp hk

namespace Inv

variable {minSize maxSize count : Nat} {w : World}

/-- A `Get` from a state of the invariant does not panic and keeps the invariant. -/
theorem get (h : Inv minSize maxSize count w) (size : Nat) (pick : Option Nat) :
    ∃ w', w.step (.get size pick) = some w' ∧ Inv minSize maxSize count w' := by
  by_cases hsize : size ≤ maxSize
  · obtain ⟨idx, hfind, hidx, hle⟩ := h.shaped.findPool_of_le hsize
    obtain ⟨sp, hsp⟩ : ∃ sp, w.pool.pools[idx]? = some sp :=
      ⟨_, List.getElem?_eq_getElem (by rw [h.shaped.length_pools]; omega)⟩
    have hspsize := (h.shaped.size_of_getElem? hsp).2
    have hfit := (h.shaped.buckets.le_bucketSize hsize hidx).2
    obtain ⟨sp', buf, hget, hcap, hsize', hsub⟩ :=
      SizedPool.get_spec (h.pooled idx sp hsp) (by rw [hspsize]; omega) pick
    rw [hspsize] at hcap
    have hcapN : buf.cap = bucketSize minSize maxSize count idx := by exact_mod_cast hcap
    have hstep : w.step (.get size pick) = some ⟨{ w.pool with pools := w.pool.pools.set idx sp' },
        w.held ++ [⟨{ buf with len := size }, some idx⟩], w.gets ++ [(size, { buf with len := size })],
        w.puts⟩ := by
      simp only [World.step, Pool.get, hfind, hsp, hget]
      rw [if_pos ⟨by omega, by omega⟩]
      simp
    refine ⟨_, hstep, h.shaped.set hsp hsize', forall_getElem?_set h.pooled fun b hb => ?_,
      List.forall_mem_append.mpr ⟨h.held, List.forall_mem_singleton.mpr ⟨hle, hcapN⟩⟩,
      List.forall_mem_append.mpr ⟨h.gets, List.forall_mem_singleton.mpr ⟨rfl, hcapN ▸ hfit⟩⟩,
      h.puts⟩
    rw [hsize']
    exact h.pooled idx sp hsp b (hsub b hb)
  · have hfind : w.pool.findPool size = some none := h.shaped.findPool_of_gt (by omega)
    have hstep : w.step (.get size pick) = some ⟨w.pool, w.held ++ [⟨⟨size, size⟩, none⟩],
        w.gets ++ [(size, ⟨size, size⟩)], w.puts⟩ := by
      simp [World.step, Pool.get, hfind, makeSlicePointer, Int.ofNat_nonneg]
    exact ⟨_, hstep, h.shaped, h.pooled,
      List.forall_mem_append.mpr
        ⟨h.held, List.forall_mem_singleton.mpr (show maxSize < size by omega)⟩,
      List.forall_mem_append.mpr ⟨h.gets, List.forall_mem_singleton.mpr ⟨rfl, Nat.le_refl _⟩⟩,
      h.puts⟩

/-- A `Put` of a held buffer does not panic and keeps the invariant: a buffer from a
bucket goes back to that bucket, a larger one is dropped. -/
theorem put (h : Inv minSize maxSize count w) (i : Nat) :
    ∃ w', w.step (.put i) = some w' ∧ Inv minSize maxSize count w' := by
  cases hheld : w.held[i]? with
  | none => exact ⟨w, by simp [World.step, hheld], h⟩
  | some hd =>
      have hfits := h.held hd (List.mem_iff_getElem?.mpr ⟨i, hheld⟩)
      have hrest : ∀ x ∈ w.held.eraseIdx i, x.Fits minSize maxSize count :=
        fun x hx => h.held x (List.mem_of_mem_eraseIdx hx)
      unfold Held.Fits at hfits
      split at hfits
      next j horigin =>
        obtain ⟨hj, hcap⟩ := hfits
        have hfind := h.shaped.findPool_bucketSize hj
        rw [← hcap] at hfind
        obtain ⟨sp, hsp⟩ : ∃ sp, w.pool.pools[j]? = some sp :=
          ⟨_, List.getElem?_eq_getElem (by rw [h.shaped.length_pools]; omega)⟩
        have hspsize := (h.shaped.size_of_getElem? hsp).2
        have hstep : w.step (.put i) = some
            ⟨{ w.pool with pools := (w.pool.pools.set j (sp.put { hd.buf with len := hd.buf.cap })) },
              w.held.eraseIdx i, w.gets, w.puts ++ [(some j, some j)]⟩ := by
          simp [World.step, hheld, Pool.put, hfind, hsp, horigin]
        refine ⟨_, hstep, h.shaped.set hsp rfl, forall_getElem?_set h.pooled ?_, hrest, h.gets,
          List.forall_mem_append.mpr ⟨h.puts, List.forall_mem_singleton.mpr rfl⟩⟩
        exact List.forall_mem_append.mpr ⟨h.pooled j sp hsp, List.forall_mem_singleton.mpr
          ⟨rfl, show (hd.buf.cap : Int) = sp.size by rw [hspsize, hcap]⟩⟩
      next horigin =>
        have hfind : w.pool.findPool hd.buf.cap = some none :=
          h.shaped.findPool_of_gt (by exact_mod_cast hfits)
        have hstep : w.step (.put i) =
            some ⟨w.pool, w.held.eraseIdx i, w.gets, w.puts ++ [(none, none)]⟩ := by
          simp [World.step, hheld, Pool.put, hfind, horigin]
        exact ⟨_, hstep, h.shaped, h.pooled, hrest, h.gets,
          List.forall_mem_append.mpr ⟨h.puts, List.forall_mem_singleton.mpr rfl⟩⟩

/-- Every run of gets and puts from a state of the invariant finishes without a panic
in a state of the invariant. -/
theorem run (h : Inv minSize maxSize count w) :
    ∀ ops : List Op, ∃ w', w.run ops = some w' ∧ Inv minSize maxSize count w' := by
  intro ops
  induction ops generalizing w with
  | nil => exact ⟨w, rfl, h⟩
  | cons op ops ih =>
      obtain ⟨w₁, hstep, h₁⟩ : ∃ w₁, w.step op = some w₁ ∧ Inv minSize maxSize count w₁ := by
        cases op with
        | get size pick => exact h.get size pick
        | put i => exact h.put i
      obtain ⟨w', hrun, h'⟩ := ih h₁
      exact ⟨w', by simp [World.run, hstep, hrun], h'⟩

end Inv

/-- The pool `New` builds, before any call: every bucket empty. -/
theorem Inv.new {minSize maxSize count : Nat} (hmin : 1 ≤ minSize) (hle : minSize ≤ maxSize)
    (hmax : maxSize < 2 ^ 63) (hbuckets : Buckets minSize maxSize count) :
    Inv minSize maxSize count ⟨⟨minSize, maxSize,
      (bucketSizes minSize maxSize count).map fun size : Nat => newSizedPool size⟩, [], [], []⟩ := by
  refine ⟨⟨rfl, rfl, by simp [Function.comp_def, newSizedPool], hbuckets, hmin, hle, hmax⟩,
    fun j sp hsp b hb => ?_, by simp, by simp, by simp⟩
  simp only [List.getElem?_map, Option.map_eq_some'] at hsp
  obtain ⟨_, _, rfl⟩ := hsp
  simp [newSizedPool] at hb

/-- Take the pool `bucketpool.New(minSize, maxSize)` builds with `1 ≤ minSize ≤ maxSize`
and no overflow, and any run of `Get(size)` and of `Put` of buffers the client got and
has not put back. `New` returns, no call panics, every bucket holds only buffers of
exactly its size, every `Get(size)` returned a slice of length `size` within its
capacity, and every `Put` sent its buffer back to the bucket it came from, or dropped
it. -/
theorem bucketPool_runs_safely {minSize maxSize : Nat} (hmin : 1 ≤ minSize)
    (hle : minSize ≤ maxSize) (hmax : maxSize < 2 ^ 63) (hover : NoOverflow minSize maxSize)
    (ops : List Op) :
    ∃ p w count, new 64 minSize maxSize = some p ∧ World.run ⟨p, [], [], []⟩ ops = some w ∧
      Inv minSize maxSize count w := by
  obtain ⟨count, hbuckets, hnew⟩ := new_eq hmin hle hmax hover
  obtain ⟨w, hrun, hinv⟩ := (Inv.new hmin hle hmax hbuckets).run ops
  exact ⟨_, w, count, hnew, hrun, hinv⟩

/-- Doubling stays in Go's `int` when `maxSize` is at most `2^62`. -/
theorem NoOverflow.of_le {minSize maxSize : Nat} (h : maxSize ≤ 2 ^ 62) :
    NoOverflow minSize maxSize := fun k hk => by
  rw [Nat.pow_succ, ← Nat.mul_assoc]
  omega

theorem bucketPool_runs_safely_three_twenty :
    ∃ p w count, new 64 3 20 = some p ∧
      World.run ⟨p, [], [], []⟩ [.get 5 none, .put 0, .get 6 (some 0), .get 30 none, .put 1] =
        some w ∧ Inv 3 20 count w :=
  bucketPool_runs_safely (by decide) (by decide) (by decide) (NoOverflow.of_le (by decide)) _

end Gaea.Util.Bucketpool
