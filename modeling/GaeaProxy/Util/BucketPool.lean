import Mathlib

/-! # Bucket pools

`bucketpool.New(minSize, maxSize)` builds buckets of sizes `minSize`, `2·minSize`, …
doubling in Go's `int` while below `maxSize`, and a last bucket of `maxSize`.
`findPool` maps a size to its bucket by a quotient, a bit length and a power-of-two
test. `Get` reslices a pooled buffer to the size asked for, which panics unless the
buffer is large enough, and `Put` hands a buffer back to the bucket its capacity maps
to. A slice is kept as its length and capacity, and `sync.Pool` as the buffers it holds.
-/

namespace Gaea.Util.Bucketpool

/-- Go's `int` arithmetic: two's complement in 64 bits. -/
def wrapInt (x : Int) : Int :=
  (x + 2 ^ 63) % 2 ^ 64 - 2 ^ 63

/-- `uint64(x)` of a Go `int`. -/
def toUint64 (x : Int) : Nat :=
  (x % 2 ^ 64).toNat

/-- `bits.Div64(hi, lo, y)`: quotient and remainder of `hi·2^64 + lo` by `y`; it panics
when `y` is zero or at most `hi`. -/
def div64 (hi lo y : Nat) : Option (Nat × Nat) :=
  if y = 0 ∨ y ≤ hi then none else some ((hi * 2 ^ 64 + lo) / y, (hi * 2 ^ 64 + lo) % y)

/-- The bit length of `x`, looking at `bits` bits at most. -/
def bitLength : Nat → Nat → Nat
  | 0, _ => 0
  | bits + 1, x => if x = 0 then 0 else bitLength bits (x / 2) + 1

/-- `bits.Len64(x)`: the number of bits needed to write `x`. -/
def len64 (x : Nat) : Nat :=
  bitLength 64 x

/-- A slice of bytes, as its length and capacity. -/
structure Buffer where
  len : Nat
  cap : Nat
  deriving DecidableEq, Repr

/-- `makeSlicePointer(size)`: `make([]byte, size)` panics on a negative size. -/
def makeSlicePointer (size : Int) : Option Buffer :=
  if 0 ≤ size then some ⟨size.toNat, size.toNat⟩ else none

/-- `sizedPool`: the bucket's size and the buffers its `sync.Pool` holds. -/
structure SizedPool where
  size : Int
  free : List Buffer
  deriving DecidableEq, Repr

def newSizedPool (size : Int) : SizedPool :=
  ⟨size, []⟩

/-- `sp.pool.Get()`: `sync.Pool` returns any buffer it holds (the one at `pick`) or,
when it returns none, calls `New`, which makes a slice of the bucket's size. -/
def SizedPool.get (sp : SizedPool) : Option Nat → Option (SizedPool × Buffer)
  | some i =>
      match sp.free[i]? with
      | some buf => some ({ sp with free := sp.free.eraseIdx i }, buf)
      | none => (makeSlicePointer sp.size).map (sp, ·)
  | none => (makeSlicePointer sp.size).map (sp, ·)

/-- `sp.pool.Put(b)`. -/
def SizedPool.put (sp : SizedPool) (b : Buffer) : SizedPool :=
  { sp with free := sp.free ++ [b] }

structure Pool where
  minSize : Int
  maxSize : Int
  pools : List SizedPool
  deriving DecidableEq, Repr

/-- The loop of `New`: a bucket of `curSize`, doubled in Go's `int`, while it is below
`maxSize`, then one of `maxSize`; `none` when `fuel` runs out first. -/
def newSizes : Nat → Int → Int → Option (List Int)
  | 0, _, _ => none
  | fuel + 1, curSize, maxSize =>
      if curSize < maxSize then (newSizes fuel (wrapInt (curSize * 2)) maxSize).map (curSize :: ·)
      else some [maxSize]

/-- `New(minSize, maxSize)`, with `fuel` iterations of its loop; `none` is the panic on
`maxSize < minSize` or a loop that has not finished. -/
def new (fuel : Nat) (minSize maxSize : Int) : Option Pool :=
  if maxSize < minSize then none
  else (newSizes fuel minSize maxSize).map fun sizes => ⟨minSize, maxSize, sizes.map newSizedPool⟩

/-- The index `findPool` computes from the quotient and remainder of the size by
`minSize`: the bit length of the quotient, less one for an exact power of two. -/
def findIdx (div rem : Nat) : Nat :=
  if rem = 0 ∧ div ≠ 0 ∧ div &&& (div - 1) = 0 then len64 div - 1 else len64 div

namespace Pool

/-- `findPool(size)`: `some none` is the nil of a size above `maxSize`, `some (some idx)`
the bucket at `idx`, and `none` a panic, of `Div64` or of the index. -/
def findPool (p : Pool) (size : Int) : Option (Option Nat) :=
  if size > p.maxSize then some none
  else (div64 0 (toUint64 size) (toUint64 p.minSize)).bind fun (div, rem) =>
    if findIdx div rem < p.pools.length then some (some (findIdx div rem)) else none

/-- `Get(size)`, `sync.Pool` picking `pick`; `none` is a panic, of `findPool`, of `make`
or of the reslice `(*buf)[:size]`. -/
def get (p : Pool) (size : Int) (pick : Option Nat) : Option (Pool × Buffer) :=
  match p.findPool size with
  | none => none
  | some none => (makeSlicePointer size).map (p, ·)
  | some (some idx) =>
      match p.pools[idx]? with
      | none => none
      | some sp =>
          match sp.get pick with
          | none => none
          | some (sp', buf) =>
              if 0 ≤ size ∧ size ≤ buf.cap then
                some ({ p with pools := p.pools.set idx sp' }, { buf with len := size.toNat })
              else none

/-- `Put(b)`: the buffer, resliced to its capacity, goes to the bucket its capacity maps
to, or is dropped. The pool after it, with the index of the bucket it wrote (`none` when it
dropped the buffer). -/
def put (p : Pool) (b : Buffer) : Option (Pool × Option Nat) :=
  match p.findPool b.cap with
  | none => none
  | some none => some (p, none)
  | some (some idx) =>
      match p.pools[idx]? with
      | none => none
      | some sp => some ({ p with pools := p.pools.set idx (sp.put { b with len := b.cap }) }, some idx)

end Pool

end Gaea.Util.Bucketpool
