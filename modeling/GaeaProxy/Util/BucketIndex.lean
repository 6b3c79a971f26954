import GaeaProxy.Util.BucketPool

/-! # The bucket of a size

`findPool` is meant to pick the least bucket `idx` with `size ≤ minSize·2^idx`. The bit
length of the quotient gives it, less one when the size is `minSize` times a power of
two, which `div & (div-1) == 0` detects. Every bucket size `New` builds maps back to
its own bucket, the last one (`maxSize`, a power-of-two multiple or not) included.
-/

namespace Gaea.Util.Bucketpool

theorem bitLength_le_iff : ∀ (bits x j : Nat), x < 2 ^ bits → (bitLength bits x ≤ j ↔ x < 2 ^ j)
  | 0, x, j, hx => by
      obtain rfl : x = 0 := by simpa using hx
      simp [bitLength, Nat.pos_pow_of_pos]
  | bits + 1, x, j, hx => by
      unfold bitLength
      split
      · subst x; simp [Nat.pos_pow_of_pos]
      · cases j with
        | zero => simp; omega
        | succ j =>
            rw [Nat.add_le_add_iff_right, bitLength_le_iff bits (x / 2) j
              (Nat.div_lt_of_lt_mul (by rwa [Nat.pow_succ, Nat.mul_comm] at hx)),
              Nat.div_lt_iff_lt_mul (by decide), Nat.pow_succ]

/-- `Len64` is the least bit count that holds `x`. -/
theorem len64_le_iff {x j : Nat} (hx : x < 2 ^ 64) : len64 x ≤ j ↔ x < 2 ^ j :=
  bitLength_le_iff 64 x j hx

theorem lt_two_pow_len64 {x : Nat} (hx : x < 2 ^ 64) : x < 2 ^ len64 x :=
  (len64_le_iff hx).mp le_rfl

theorem len64_pos {x : Nat} (hx : x < 2 ^ 64) (h0 : x ≠ 0) : 0 < len64 x := by
  by_contra hle
  have := (len64_le_iff hx).mp (show len64 x ≤ 0 by omega)
  omega

theorem two_pow_len64_le {x : Nat} (hx : x < 2 ^ 64) (h0 : x ≠ 0) : 2 ^ (len64 x - 1) ≤ x := by
  by_contra hlt
  have := (len64_le_iff hx).mpr (show x < 2 ^ (len64 x - 1) by omega)
  have := len64_pos hx h0
  omega

theorem testBit_of_le_of_lt {x m : Nat} (hlo : 2 ^ m ≤ x) (hhi : x < 2 ^ (m + 1)) :
    x.testBit m = true := by
  rw [Nat.pow_succ] at hhi
  rw [Nat.testBit_to_div_mod, Nat.div_eq_of_lt_le (show 1 * 2 ^ m ≤ x by omega)
    (show x < (1 + 1) * 2 ^ m by omega)]
  rfl

/-- The power-of-two test of `findPool`: a nonzero `x` shares no bit with `x - 1` just
when it is a power of two. -/
theorem and_sub_one_eq_zero_iff {x : Nat} (hx : x < 2 ^ 64) (h0 : x ≠ 0) :
    x &&& (x - 1) = 0 ↔ x = 2 ^ (len64 x - 1) := by
  have hlo := two_pow_len64_le hx h0
  have hhi : x < 2 ^ (len64 x - 1 + 1) := by
    rw [Nat.sub_add_cancel (len64_pos hx h0)]; exact lt_two_pow_len64 hx
  constructor
  · intro hand
    by_contra hne
    -- bit `len64 x - 1` is set in both `x` and `x - 1`
    have hbit := Nat.testBit_and x (x - 1) (len64 x - 1)
    rw [hand, Nat.zero_testBit, testBit_of_le_of_lt hlo hhi,
      testBit_of_le_of_lt (by omega) (by omega)] at hbit
    cases hbit
  · intro hpow
    rw [hpow, Nat.and_pow_two_sub_one_eq_mod, Nat.mod_self]

/-- `idx` is the bucket of `size` among buckets doubling from `minSize`: the least `idx`
with `size ≤ minSize·2^idx`. -/
def IsBucketIndex (minSize size idx : Nat) : Prop :=
  size ≤ minSize * 2 ^ idx ∧ (idx = 0 ∨ minSize * 2 ^ (idx - 1) < size)

theorem IsBucketIndex.le_of_le {minSize size idx j : Nat} (h : IsBucketIndex minSize size idx)
    (hj : size ≤ minSize * 2 ^ j) : idx ≤ j := by
  rcases h.2 with h0 | hlt
  · omega
  · by_contra hgt
    have := Nat.mul_le_mul_left minSize
      (Nat.pow_le_pow_right (by decide : 0 < 2) (show j ≤ idx - 1 by omega))
    omega

theorem IsBucketIndex.unique {minSize size i j : Nat} (hi : IsBucketIndex minSize size i)
    (hj : IsBucketIndex minSize size j) : i = j :=
  Nat.le_antisymm (hi.le_of_le hj.1) (hj.le_of_le hi.1)

/-- `minSize·2^k` is the bucket size of its own index. -/
theorem isBucketIndex_mul_pow {minSize : Nat} (hmin : 0 < minSize) (k : Nat) :
    IsBucketIndex minSize (minSize * 2 ^ k) k := by
  refine ⟨le_rfl, ?_⟩
  cases k with
  | zero => exact .inl rfl
  | succ k =>
      refine .inr (Nat.mul_lt_mul_of_pos_left ?_ hmin)
      rw [Nat.add_sub_cancel, Nat.pow_succ]
      have := Nat.two_pow_pos k
      omega

/-- The index `findPool` computes is the bucket of the size. -/
theorem findIdx_isBucketIndex {minSize size : Nat} (hmin : 0 < minSize) (hsize : size < 2 ^ 64) :
    IsBucketIndex minSize size (findIdx (size / minSize) (size % minSize)) := by
  have hdiv : size / minSize < 2 ^ 64 := Nat.lt_of_le_of_lt (Nat.div_le_self _ _) hsize
  have hsplit := Nat.div_add_mod size minSize
  have hrem := Nat.mod_lt size hmin
  unfold findIdx
  split
  next hpow =>
    obtain ⟨hrem0, hne, hand⟩ := hpow
    have hexp := (and_sub_one_eq_zero_iff hdiv hne).mp hand
    rw [hrem0, Nat.add_zero, hexp] at hsplit
    have := isBucketIndex_mul_pow hmin (len64 (size / minSize) - 1)
    rwa [hsplit] at this
  next hnot =>
    have hlt := lt_two_pow_len64 hdiv
    refine ⟨?_, ?_⟩
    · -- size < minSize·(div + 1) ≤ minSize·2^len
      have := Nat.mul_le_mul_left minSize
        (show size / minSize + 1 ≤ 2 ^ len64 (size / minSize) by omega)
      rw [Nat.mul_add, Nat.mul_one] at this
      omega
    · by_cases hlen : len64 (size / minSize) = 0
      · exact .inl hlen
      refine .inr ?_
      have hne : size / minSize ≠ 0 := fun h => hlen (by simp [h, len64, bitLength])
      have hlo := Nat.mul_le_mul_left minSize (two_pow_len64_le hdiv hne)
      -- equality would make the size an exact power-of-two multiple
      refine Nat.lt_of_le_of_ne (by omega) fun heq => hnot ⟨by omega, hne, ?_⟩
      refine (and_sub_one_eq_zero_iff hdiv hne).mpr (Nat.eq_of_mul_eq_mul_left hmin ?_).symm
      omega

/-! ### The buckets `New` builds -/

/-- Bucket `j` of `New(minSize, maxSize)` when it doubles `count` times. -/
def bucketSize (minSize maxSize count j : Nat) : Nat :=
  if j < count then minSize * 2 ^ j else maxSize

def bucketSizes (minSize maxSize count : Nat) : List Nat :=
  (List.range (count + 1)).map (bucketSize minSize maxSize count)

/-- `count` doublings of `minSize` stay below `maxSize`, and the next reaches it. -/
structure Buckets (minSize maxSize count : Nat) : Prop where
  below : ∀ k < count, minSize * 2 ^ k < maxSize
  covers : maxSize ≤ minSize * 2 ^ count

/-- Every bucket size maps back to its own bucket. -/
theorem Buckets.isBucketIndex {minSize maxSize count : Nat} (h : Buckets minSize maxSize count)
    (hmin : 0 < minSize) {j : Nat} (hj : j ≤ count) :
    IsBucketIndex minSize (bucketSize minSize maxSize count j) j := by
  unfold bucketSize
  split
  · exact isBucketIndex_mul_pow hmin j
  · obtain rfl : j = count := by omega
    refine ⟨h.covers, ?_⟩
    cases j with
    | zero => exact .inl rfl
    | succ j => exact .inr (h.below j (by omega))

/-- A size up to `maxSize` has its bucket among the buckets, and fits in it. -/
theorem Buckets.le_bucketSize {minSize maxSize count size idx : Nat}
    (h : Buckets minSize maxSize count) (hsize : size ≤ maxSize)
    (hidx : IsBucketIndex minSize size idx) :
    idx ≤ count ∧ size ≤ bucketSize minSize maxSize count idx := by
  have hle := hidx.le_of_le (Nat.le_trans hsize h.covers)
  refine ⟨hle, ?_⟩
  unfold bucketSize
  split
  · exact hidx.1
  · exact hsize

/-- Go's `int` does not overflow while `New` doubles `minSize` below `maxSize`. -/
def NoOverflow (minSize maxSize : Nat) : Prop :=
  ∀ k, minSize * 2 ^ k < maxSize → minSize * 2 ^ (k + 1) < 2 ^ 63

theorem wrapInt_of_lt {x : Int} (hlo : -2 ^ 63 ≤ x) (hhi : x < 2 ^ 63) : wrapInt x = x := by
  unfold wrapInt
  rw [Int.emod_eq_of_lt (by omega) (by omega)]
  omega

/-- From `curSize = minSize·2^k`, the loop of `New` lists the buckets from `k` on, when
`fuel` more doublings reach `maxSize`. -/
theorem newSizes_eq {minSize maxSize : Nat} (hover : NoOverflow minSize maxSize) : ∀ fuel k, (∀ j < k, minSize * 2 ^ j < maxSize) →
    maxSize ≤ minSize * 2 ^ (k + fuel) →
    ∃ count, k ≤ count ∧ Buckets minSize maxSize count ∧
      newSizes (fuel + 1) ((minSize * 2 ^ k : Nat) : Int) maxSize =
        some ((List.range' k (count + 1 - k)).map
          fun j => ((bucketSize minSize maxSize count j : Nat) : Int)) := by
  intro fuel
  induction fuel with
  | zero =>
      intro k hbelow hcover
      rw [Nat.add_zero] at hcover
      refine ⟨k, le_rfl, ⟨hbelow, hcover⟩, ?_⟩
      have hge : ¬ ((minSize * 2 ^ k : Nat) : Int) < maxSize := by exact_mod_cast Nat.not_lt.mpr hcover
      rw [newSizes, if_neg hge, show k + 1 - k = 1 by omega]
      simp [bucketSize]
  | succ fuel ih =>
      intro k hbelow hcover
      by_cases hlt : minSize * 2 ^ k < maxSize
      · have hnext := hover k hlt
        obtain ⟨count, hk, hbuckets, heq⟩ := ih (k + 1)
          (fun j hj => if hjk : j < k then hbelow j hjk else (show j = k by omega) ▸ hlt)
          (by rwa [show k + 1 + fuel = k + (fuel + 1) by omega])
        refine ⟨count, by omega, hbuckets, ?_⟩
        have hcast : ((minSize * 2 ^ k : Nat) : Int) * 2 = ((minSize * 2 ^ (k + 1) : Nat) : Int) := by
          rw [Nat.pow_succ, ← Nat.mul_assoc, Int.ofNat_mul]
          rfl
        have hdouble : wrapInt (((minSize * 2 ^ k : Nat) : Int) * 2) =
            ((minSize * 2 ^ (k + 1) : Nat) : Int) := by
          rw [hcast]
          have := Int.ofNat_nonneg (minSize * 2 ^ (k + 1))
          exact wrapInt_of_lt (by omega) (by exact_mod_cast hnext)
        rw [newSizes, if_pos (by exact_mod_cast hlt), hdouble, heq,
          show count + 1 - k = count - k + 1 by omega, List.range'_succ]
        simp [bucketSize, show k < count by omega]
      · refine ⟨k, le_rfl, ⟨hbelow, by omega⟩, ?_⟩
        rw [newSizes, if_neg (by exact_mod_cast hlt), show k + 1 - k = 1 by omega]
        simp [bucketSize]

/-- `New(minSize, maxSize)` with `1 ≤ minSize ≤ maxSize` and no overflow finishes within
64 iterations and builds the buckets. -/
theorem new_eq {minSize maxSize : Nat} (hmin : 1 ≤ minSize) (hle : minSize ≤ maxSize)
    (hmax : maxSize < 2 ^ 63) (hover : NoOverflow minSize maxSize) :
    ∃ count, Buckets minSize maxSize count ∧
      new 64 minSize maxSize = some ⟨minSize, maxSize,
        (bucketSizes minSize maxSize count).map fun size : Nat => newSizedPool size⟩ := by
  have hcover : maxSize ≤ minSize * 2 ^ (0 + 63) :=
    Nat.le_trans (Nat.le_of_lt hmax) (Nat.le_mul_of_pos_left _ hmin)
  obtain ⟨count, -, hbuckets, heq⟩ :=
    newSizes_eq hover 63 0 (fun _ h => absurd h (Nat.not_lt_zero _)) hcover
  refine ⟨count, hbuckets, ?_⟩
  rw [new, if_neg (by omega)]
  simp only [Nat.pow_zero, Nat.mul_one] at heq
  rw [heq]
  simp [bucketSizes, List.range_eq_range', Function.comp_def]

/-! ### `findPool` on the buckets -/

theorem toUint64_ofNat {n : Nat} (h : n < 2 ^ 64) : toUint64 n = n := by
  unfold toUint64
  rw [Int.emod_eq_of_lt (Int.ofNat_nonneg n) (by exact_mod_cast h)]
  rfl

theorem bucketSize_le {minSize maxSize count : Nat} (h : Buckets minSize maxSize count) (j : Nat) :
    bucketSize minSize maxSize count j ≤ maxSize := by
  unfold bucketSize
  split
  · exact Nat.le_of_lt (h.below j ‹_›)
  · exact le_rfl

/-- A pool with the bounds and bucket sizes of `New(minSize, maxSize)`, whatever its
buckets hold. -/
structure Pool.Shaped (p : Pool) (minSize maxSize count : Nat) : Prop where
  minSize_eq : p.minSize = minSize
  maxSize_eq : p.maxSize = maxSize
  sizes : p.pools.map (·.size) = (bucketSizes minSize maxSize count).map fun size : Nat => (size : Int)
  buckets : Buckets minSize maxSize count
  pos : 0 < minSize
  le : minSize ≤ maxSize
  lt : maxSize < 2 ^ 63

namespace Pool.Shaped

variable {p : Pool} {minSize maxSize count : Nat}

theorem length_pools (h : Shaped p minSize maxSize count) : p.pools.length = count + 1 := by
  simpa [bucketSizes] using congrArg List.length h.sizes

theorem size_of_getElem? (h : Shaped p minSize maxSize count) {j : Nat} {sp : SizedPool}
    (hsp : p.pools[j]? = some sp) : j ≤ count ∧ sp.size = bucketSize minSize maxSize count j := by
  have hj := (List.getElem?_eq_some_iff.mp hsp).1
  rw [h.length_pools] at hj
  have := congrArg (·[j]?) h.sizes
  simp only [List.getElem?_map, hsp, bucketSizes, List.getElem?_range hj] at this
  simpa [show j ≤ count by omega] using this

/-- A size up to `maxSize` goes to its bucket, which holds it. -/
theorem findPool_of_le (h : Shaped p minSize maxSize count) {size : Nat} (hsize : size ≤ maxSize) :
    ∃ idx, p.findPool size = some (some idx) ∧ IsBucketIndex minSize size idx ∧ idx ≤ count := by
  have hidx : IsBucketIndex minSize size (findIdx (size / minSize) (size % minSize)) :=
    findIdx_isBucketIndex h.pos (by have := h.lt; omega)
  have hle := (h.buckets.le_bucketSize hsize hidx).1
  refine ⟨_, ?_, hidx, hle⟩
  have hmax : ¬ (size : Int) > p.maxSize := by rw [h.maxSize_eq]; omega
  have hmin : toUint64 p.minSize = minSize := by
    rw [h.minSize_eq]; exact toUint64_ofNat (by have := h.lt; have := h.le; omega)
  rw [Pool.findPool, if_neg hmax, toUint64_ofNat (by have := h.lt; omega), hmin, div64,
    if_neg (by have := h.pos; omega)]
  simp [h.length_pools, show findIdx (size / minSize) (size % minSize) < count + 1 by omega]

theorem findPool_of_gt (h : Shaped p minSize maxSize count) {size : Int} (hsize : maxSize < size) :
    p.findPool size = some none := by
  rw [Pool.findPool, if_pos (by rw [h.maxSize_eq]; exact hsize)]

/-- Each bucket size maps back to its own bucket. -/
theorem findPool_bucketSize (h : Shaped p minSize maxSize count) {j : Nat} (hj : j ≤ count) :
    p.findPool (bucketSize minSize maxSize count j) = some (some j) := by
  obtain ⟨idx, hfind, hidx, -⟩ := h.findPool_of_le (bucketSize_le h.buckets j)
  rwa [hidx.unique (h.buckets.isBucketIndex h.pos hj)] at hfind

end Pool.Shaped

end Gaea.Util.Bucketpool
