import GaeaProxy.Util.BucketPoolRun

/-! # What `New` builds, and the bucket `findPool` picks

`New` rejects only `maxSize < minSize`. Its loop doubles `curSize` in Go's `int` while
it is below `maxSize`: from `minSize = 0` the size never moves, and a doubling past
`MaxInt` wraps to a negative size and then to 0, where it stays. With
`1 ≤ minSize ≤ maxSize` and no doubling past `MaxInt` the loop ends, the sizes double
up to a last bucket of `maxSize`, and `findPool` maps each size up to `maxSize` to the
smallest bucket that holds it.
-/

namespace Gaea.Util.Bucketpool

/-! ### The loop of `New` -/

/-- The loop builds the same buckets whatever fuel lets it finish. -/
theorem newSizes_eq_of_eq_some : ∀ {fuel fuel' : Nat} {curSize maxSize : Int}
    {sizes sizes' : List Int}, newSizes fuel curSize maxSize = some sizes →
      newSizes fuel' curSize maxSize = some sizes' → sizes = sizes'
  | 0, _, _, _, _, _, h, _ => nomatch h
  | _ + 1, 0, _, _, _, _, _, h' => nomatch h'
  | fuel + 1, fuel' + 1, curSize, maxSize, sizes, sizes', h, h' => by
      by_cases hlt : curSize < maxSize
      · simp only [newSizes, hlt, if_true, Option.map_eq_some'] at h h'
        obtain ⟨rest, hrest, rfl⟩ := h
        obtain ⟨rest', hrest', rfl⟩ := h'
        rw [newSizes_eq_of_eq_some hrest hrest']
      · simp only [newSizes, hlt, if_false, Option.some.injEq] at h h'
        rw [← h, ← h']

theorem new_eq_of_eq_some {fuel fuel' : Nat} {minSize maxSize : Int} {p p' : Pool}
    (h : new fuel minSize maxSize = some p) (h' : new fuel' minSize maxSize = some p') :
    p = p' := by
  by_cases hlt : maxSize < minSize
  · simp [new, hlt] at h
  simp only [new, hlt, if_false, Option.map_eq_some'] at h h'
  obtain ⟨sizes, hsizes, rfl⟩ := h
  obtain ⟨sizes', hsizes', rfl⟩ := h'
  rw [newSizes_eq_of_eq_some hsizes hsizes']

/-- Any pool `New` builds with `1 ≤ minSize ≤ maxSize` and no overflow has the buckets
of `New`. -/
theorem Pool.Shaped.of_new {minSize maxSize : Nat} (hmin : 1 ≤ minSize) (hle : minSize ≤ maxSize)
    (hmax : maxSize < 2 ^ 63) (hover : NoOverflow minSize maxSize) {fuel : Nat} {p : Pool}
    (hnew : new fuel minSize maxSize = some p) : ∃ count, p.Shaped minSize maxSize count := by
  obtain ⟨count, hbuckets, hnew64⟩ := new_eq hmin hle hmax hover
  cases new_eq_of_eq_some hnew hnew64
  exact ⟨count, (Inv.new hmin hle hmax hbuckets).shaped⟩

/-- A set of sizes below `maxSize` that the doubling never leaves keeps the loop going
for any fuel. -/
theorem newSizes_eq_none {maxSize : Int} (S : Int → Prop)
    (hS : ∀ x, S x → x < maxSize ∧ S (wrapInt (x * 2))) :
    ∀ fuel x, S x → newSizes fuel x maxSize = none
  | 0, _, _ => rfl
  | fuel + 1, x, hx => by
      rw [newSizes, if_pos (hS x hx).1, newSizes_eq_none S hS fuel _ (hS x hx).2]
      rfl

/-- A power of two below `2^62` doubles in Go's `int` to the next one, and `2^62` to
`MinInt`. -/
theorem wrapInt_pow_two_mul_two {k : Nat} (hk : k ≤ 62) :
    wrapInt (((2 ^ k : Nat) : Int) * 2) = if k < 62 then ((2 ^ (k + 1) : Nat) : Int) else -2 ^ 63 := by
  split
  · have hle : 2 ^ (k + 1) ≤ 2 ^ 62 := Nat.pow_le_pow_right (by decide) (by omega)
    rw [show ((2 ^ k : Nat) : Int) * 2 = ((2 ^ (k + 1) : Nat) : Int) by rw [Nat.pow_succ]; push_cast; rfl]
    exact wrapInt_of_lt (Int.le_trans (show (-2 ^ 63 : Int) ≤ 0 by decide) (Int.ofNat_nonneg _))
      (Int.lt_of_le_of_lt (Int.ofNat_le.mpr hle) (show ((2 ^ 62 : Nat) : Int) < 2 ^ 63 by decide))
  · obtain rfl : k = 62 := by omega
    decide

/-- `New(minSize, maxSize)` never returns from `minSize = 0`, nor from a power of two
`minSize` when `maxSize` is past `MaxInt/2`; and `New(11·2^59, 3·2^61)` returns with a
negative bucket between its first and its last. -/
theorem new_runs_forever_or_wraps :
    (∀ maxSize : Int, 0 < maxSize → ∀ fuel, new fuel 0 maxSize = none) ∧
    (∀ j ≤ 62, ∀ maxSize : Int, 2 ^ 62 < maxSize → ∀ fuel, new fuel (2 ^ j) maxSize = none) ∧
    new 3 (11 * 2 ^ 59) (3 * 2 ^ 61) =
      some ⟨11 * 2 ^ 59, 3 * 2 ^ 61, [⟨11 * 2 ^ 59, []⟩, ⟨-5 * 2 ^ 60, []⟩, ⟨3 * 2 ^ 61, []⟩]⟩ := by
  refine ⟨fun maxSize hmax fuel => ?_, fun j hj maxSize hmax fuel => ?_, by decide⟩
  · rw [new, if_neg (by omega), newSizes_eq_none (· = 0) (fun x hx => ⟨by omega, by subst hx; decide⟩)
      fuel 0 rfl]
    rfl
  · -- the powers of two up to `2^62`, then `MinInt`, then 0
    let S : Int → Prop := fun x => x = 0 ∨ x = -2 ^ 63 ∨ ∃ k ≤ 62, x = ((2 ^ k : Nat) : Int)
    have hS : ∀ x, S x → x < maxSize ∧ S (wrapInt (x * 2)) := by
      rintro x (rfl | rfl | ⟨k, hk, rfl⟩)
      · exact ⟨by omega, .inl (by decide)⟩
      · exact ⟨by omega, .inl (by decide)⟩
      · have hle : 2 ^ k ≤ 2 ^ 62 := Nat.pow_le_pow_right (by decide) hk
        refine ⟨by omega, ?_⟩
        rw [wrapInt_pow_two_mul_two hk]
        split
        · exact .inr (.inr ⟨k + 1, by omega, rfl⟩)
        · exact .inr (.inl rfl)
    have hle : 2 ^ j ≤ 2 ^ 62 := Nat.pow_le_pow_right (by decide) hj
    rw [show (2 : Int) ^ j = ((2 ^ j : Nat) : Int) by push_cast; rfl, new, if_neg (by omega),
      newSizes_eq_none S hS fuel _ (.inr (.inr ⟨j, hj, rfl⟩))]
    rfl

/-- Bucket sizes grow strictly up to the last bucket. -/
theorem Buckets.bucketSize_lt {minSize maxSize count : Nat} (h : Buckets minSize maxSize count)
    (hmin : 0 < minSize) {i j : Nat} (hij : i < j) (hj : j ≤ count) :
    bucketSize minSize maxSize count i < bucketSize minSize maxSize count j := by
  have hi : bucketSize minSize maxSize count i = minSize * 2 ^ i := if_pos (by omega)
  rw [hi]
  unfold bucketSize
  split
  · exact Nat.mul_lt_mul_of_pos_left (Nat.pow_lt_pow_right (by decide) hij) hmin
  · exact h.below i (by omega)

/-- With `1 ≤ minSize ≤ maxSize` and no overflow, `New` returns, and its bucket sizes
start at `minSize`, grow strictly, double at every step but the last, and end with
`maxSize`. -/
theorem new_sizes_double {minSize maxSize : Nat} (hmin : 1 ≤ minSize) (hle : minSize ≤ maxSize)
    (hmax : maxSize < 2 ^ 63) (hover : NoOverflow minSize maxSize) :
    ∃ p sizes, new 64 minSize maxSize = some p ∧ p.pools.map SizedPool.size = sizes ∧
      sizes.head? = some (minSize : Int) ∧ sizes.getLast? = some (maxSize : Int) ∧
      sizes.Pairwise (· < ·) ∧ ∀ i, i + 2 < sizes.length → sizes[i + 1]? = sizes[i]?.map (2 * ·) := by
  obtain ⟨count, hbuckets, hnew⟩ := new_eq hmin hle hmax hover
  refine ⟨_, (bucketSizes minSize maxSize count).map fun size : Nat => (size : Int), hnew,
    by simp [Function.comp_def, newSizedPool], ?_, ?_, ?_, fun i hi => ?_⟩
  · -- with no doubling, `maxSize = minSize`
    have hfirst : bucketSize minSize maxSize count 0 = minSize := by
      unfold bucketSize
      split
      · simp
      · have := hbuckets.covers
        simp only [show count = 0 by omega, Nat.pow_zero, Nat.mul_one] at this
        omega
    simp [bucketSizes, List.range_succ_eq_map, hfirst]
  · simp [bucketSizes, List.getLast?_map, List.getLast?_range, bucketSize]
  · simp only [bucketSizes, List.map_map, List.pairwise_map]
    refine (List.pairwise_lt_range _).imp_of_mem fun _ hb hab => ?_
    exact Int.ofNat_lt.mpr <| hbuckets.bucketSize_lt (by omega) hab (Nat.lt_succ_iff.mp (List.mem_range.mp hb))
  · simp only [bucketSizes, List.map_map, List.length_map, List.length_range] at hi ⊢
    simp only [List.getElem?_map, List.getElem?_range (show i + 1 < count + 1 by omega),
      List.getElem?_range (show i < count + 1 by omega), Option.map_some', Function.comp_apply,
      bucketSize, show i + 1 < count by omega, show i < count by omega, if_true, Nat.pow_succ,
      ← Nat.mul_assoc]
    rw [Nat.mul_comm _ 2]
    exact congrArg some (Int.ofNat_mul 2 _)

theorem new_sizes_double_three_twenty :
    ∃ p sizes, new 64 (3 : Nat) (20 : Nat) = some p ∧ p.pools.map SizedPool.size = sizes ∧
      sizes.head? = some ((3 : Nat) : Int) ∧ sizes.getLast? = some ((20 : Nat) : Int) ∧
      sizes.Pairwise (· < ·) ∧ ∀ i, i + 2 < sizes.length → sizes[i + 1]? = sizes[i]?.map (2 * ·) :=
  new_sizes_double (by decide) (by decide) (by decide) (NoOverflow.of_le (by decide))

/-! ### `findPool` on the pool `New` builds -/

/-- Take any pool `New(minSize, maxSize)` builds with `1 ≤ minSize ≤ maxSize` and no
overflow: `findPool` returns nil for every size above `maxSize`, and for every size in
`[0, maxSize]` a bucket in range, the smallest whose size holds it. -/
theorem findPool_smallest_bucket {minSize maxSize : Nat} (hmin : 1 ≤ minSize)
    (hle : minSize ≤ maxSize) (hmax : maxSize < 2 ^ 63) (hover : NoOverflow minSize maxSize)
    {fuel : Nat} {p : Pool} (hnew : new fuel minSize maxSize = some p) :
    (∀ size : Int, maxSize < size → p.findPool size = some none) ∧
    ∀ size : Int, 0 ≤ size → size ≤ maxSize → ∃ idx sp, p.findPool size = some (some idx) ∧
      p.pools[idx]? = some sp ∧ size ≤ sp.size ∧
      ∀ j sp', j < idx → p.pools[j]? = some sp' → sp'.size < size := by
  obtain ⟨count, hshaped⟩ := Pool.Shaped.of_new hmin hle hmax hover hnew
  refine ⟨fun size hsize => hshaped.findPool_of_gt hsize, fun size hnonneg hsize => ?_⟩
  obtain ⟨n, rfl⟩ := Int.eq_ofNat_of_zero_le hnonneg
  obtain ⟨idx, hfind, hidx, hle⟩ := hshaped.findPool_of_le (show n ≤ maxSize by omega)
  have hlen := hshaped.length_pools
  refine ⟨idx, p.pools[idx], hfind, List.getElem?_eq_getElem (show idx < p.pools.length by omega), ?_, fun j sp' hj hsp' => ?_⟩
  · rw [(hshaped.size_of_getElem? (List.getElem?_eq_getElem (show idx < p.pools.length by omega))).2]
    exact_mod_cast (hshaped.buckets.le_bucketSize (show n ≤ maxSize by omega) hidx).2
  · -- an earlier bucket is `minSize·2^j` with `j ≤ idx - 1`, below the size
    rw [(hshaped.size_of_getElem? hsp').2, bucketSize, if_pos (by omega)]
    have hbelow := hidx.2.resolve_left (by omega)
    have := Nat.mul_le_mul_left minSize (Nat.pow_le_pow_right (show 0 < 2 by decide) (show j ≤ idx - 1 by omega))
    exact_mod_cast (show minSize * 2 ^ j < n by omega)

theorem findPool_smallest_bucket_three_twenty :
    ∃ p, new 64 3 20 = some p ∧
      (∀ size : Int, (20 : Nat) < size → p.findPool size = some none) ∧
      ∀ size : Int, 0 ≤ size → size ≤ (20 : Nat) → ∃ idx sp, p.findPool size = some (some idx) ∧
        p.pools[idx]? = some sp ∧ size ≤ sp.size ∧
        ∀ j sp', j < idx → p.pools[j]? = some sp' → sp'.size < size :=
  ⟨_, rfl, @findPool_smallest_bucket 3 20 (by decide) (by decide) (by decide)
    (NoOverflow.of_le (by decide)) 64 _ rfl⟩

end Gaea.Util.Bucketpool
