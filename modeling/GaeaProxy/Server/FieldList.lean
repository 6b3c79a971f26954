import GaeaProxy.Server.ReadPacket

/-! # `COM_FIELD_LIST`

`handleFieldList` splits its payload at the first NUL byte: the table name before it, the
wildcard after it. A payload with no NUL makes `bytes.IndexByte` return `-1`, and
`data[0:index]` then panics, before any backend connection is taken. Otherwise it takes a
connection for the slice of the table's rule, and the `recycleBackendConn` it defers is the
last call on every path after that (`handleFieldList_spec`).

The router's rule, `getBackendConn`, `GetDefaultPhyDB`, `initBackendConn` and the
connection's `FieldList` reach the namespace and the backends: their answers are
parameters, and the calls on the connection are kept in order. A field list is kept by its
identity.
-/

namespace Gaea.Server

/-- `bytes.IndexByte(data, c)`: the index of the first `c` in `data`, or `-1`. -/
def indexByte : List UInt8 → UInt8 → Int
  | [], _ => -1
  | b :: bs, c => if b = c then 0 else if indexByte bs c < 0 then -1 else indexByte bs c + 1

/-- The table and the wildcard of a `COM_FIELD_LIST` payload, `string(data[0:index])` and
`string(data[index+1:])`; `none` is the panic of the slice bound `-1`. -/
def fieldListArgs (data : List UInt8) : Option (String × String) :=
  if indexByte data 0 < 0 then none
  else some (bytesToString (data.take (indexByte data 0).toNat),
    bytesToString (data.drop ((indexByte data 0).toNat + 1)))

/-- A call `handleFieldList` makes towards the backend, in order. -/
inductive FieldListCall where
  | getBackendConn (slice : String)
  | initBackendConn (conn : Nat) (phyDB : String)
  | fieldList (conn : Nat) (table wildcard : String)
  | recycleBackendConn (conn : Nat)
  deriving DecidableEq, Repr

/-- What `handleFieldList` meets outside its payload: the slice of the table's rule
(`GetRule(db, table).GetSlice(0)`), and the answers of `getBackendConn`, `GetDefaultPhyDB`,
`initBackendConn` and the connection's `FieldList`. -/
structure FieldListEnv where
  sliceOf : String → String
  getBackendConn : String → Except ExecError Nat
  getDefaultPhyDB : Except ExecError String
  initBackendConn : Nat → String → Option ExecError
  fieldList : Nat → String → String → Except ExecError Nat

/-- The part of `handleFieldList` after `getBackendConn` returned `pc`, before the deferred
recycle: its result and its calls. -/
def FieldListEnv.withConn (env : FieldListEnv) (pc : Nat) (table wildcard : String) :
    Except ExecError Nat × List FieldListCall :=
  match env.getDefaultPhyDB with
  | .error err => (.error err, [])
  | .ok phyDB =>
      match env.initBackendConn pc phyDB with
      | some err => (.error err, [.initBackendConn pc phyDB])
      | none => (env.fieldList pc table wildcard,
          [.initBackendConn pc phyDB, .fieldList pc table wildcard])

/-- `handleFieldList(data)`: `none` when it panics, otherwise its field list or error and the
calls it made. -/
def handleFieldList (env : FieldListEnv) (data : List UInt8) :
    Option (Except ExecError Nat × List FieldListCall) :=
  (fieldListArgs data).map fun args =>
    match env.getBackendConn (env.sliceOf args.1) with
    | .error err => (.error err, [.getBackendConn (env.sliceOf args.1)])
    | .ok pc =>
        ((env.withConn pc args.1 args.2).1,
          .getBackendConn (env.sliceOf args.1) :: (env.withConn pc args.1 args.2).2 ++
            [.recycleBackendConn pc])

theorem indexByte_neg_iff (data : List UInt8) (c : UInt8) : indexByte data c < 0 ↔ c ∉ data := by
  induction data with
  | nil => simp [indexByte]
  | cons b bs ih =>
      by_cases hb : b = c
      · subst hb; simp [indexByte]
      · simp only [indexByte, hb, if_false, List.mem_cons, Ne.symm hb, false_or, ← ih]
        split <;> omega

/-- The first NUL of a payload whose table holds none is the one after the table. -/
theorem indexByte_append_zero (table wildcard : List UInt8) (htable : (0 : UInt8) ∉ table) :
    indexByte (table ++ 0 :: wildcard) 0 = table.length := by
  induction table with
  | nil => simp [indexByte]
  | cons b bs ih =>
      have hb : b ≠ 0 := fun h => htable (h ▸ List.mem_cons_self _ _)
      rw [List.cons_append, indexByte, if_neg hb,
        ih fun h => htable (List.mem_cons_of_mem _ h)]
      simp

theorem fieldListArgs_append_zero (table wildcard : List UInt8) (htable : (0 : UInt8) ∉ table) :
    fieldListArgs (table ++ 0 :: wildcard) = some (bytesToString table, bytesToString wildcard) := by
  simp [fieldListArgs, indexByte_append_zero table wildcard htable]

example : fieldListArgs [116, 0, 37] = some ("t", "%") ∧ fieldListArgs [116, 37] = none := by
  decide

/-- `handleFieldList` panics exactly on a payload with no NUL byte. On any other payload,
written as a table with no NUL, a NUL and a wildcard, it first asks for a connection to the
slice of that table's rule; any `FieldList` it calls is for that table and that wildcard; and
when the connection is given, its recycle is the last call and made once, while a refused
connection is never recycled. -/
theorem handleFieldList_spec (env : FieldListEnv) (data : List UInt8) :
    (handleFieldList env data = none ↔ (0 : UInt8) ∉ data) ∧
    ∀ table wildcard, (0 : UInt8) ∉ table → data = table ++ 0 :: wildcard →
      ∃ result calls, handleFieldList env data = some (result, calls) ∧
        calls.head? = some (.getBackendConn (env.sliceOf (bytesToString table))) ∧
        (∀ pc t w, .fieldList pc t w ∈ calls → t = bytesToString table ∧ w = bytesToString wildcard) ∧
        match env.getBackendConn (env.sliceOf (bytesToString table)) with
        | .ok pc => calls.getLast? = some (.recycleBackendConn pc) ∧
            calls.count (.recycleBackendConn pc) = 1
        | .error _ => ∀ pc, .recycleBackendConn pc ∉ calls := by
  refine ⟨?_, fun table wildcard htable hdata => ?_⟩
  · simp only [handleFieldList, Option.map_eq_none', fieldListArgs]
    rw [← indexByte_neg_iff data 0]
    split <;> simp_all
  · subst hdata
    simp only [handleFieldList, fieldListArgs_append_zero table wildcard htable, Option.map_some']
    split
    · rename_i err hconn
      refine ⟨_, _, rfl, rfl, by simp, ?_⟩
      simp [hconn]
    · rename_i pc hconn
      refine ⟨_, _, rfl, rfl, ?_, ?_⟩
      · intro pc' t w hmem
        simp only [FieldListEnv.withConn, List.cons_append, List.mem_cons, List.mem_append] at hmem
        split at hmem <;> [skip; split at hmem] <;> simp_all
      · simp only [hconn]
        refine ⟨List.getLast?_concat _, ?_⟩
        simp only [FieldListEnv.withConn]
        split <;> [skip; split] <;> simp

end Gaea.Server
