import GaeaProxy.Util.BucketPool

/-! # P99 and P95 response times

`recordBackendSQLTiming` sends one `SQLExecTimeRecord` per backend query, with the
backend's address, to its namespace's channel. Every tick, `CalcAvgSQLTimes` drains each
channel, sorts the execution times and stores the P99/P95 maximum and average in four maps
keyed by backend address, which `recordBackendConnectPoolMetrics` publishes as each
backend's gauges. The drain pools the records of every backend and remembers only the
address of the last one: the four values are computed from all the records of the batch
and stored under that one address, and an empty batch stores zeros under `""`.

The records the channel delivers before the one-millisecond timeout fires are a parameter;
the namespaces are drained independently, so the model follows one.
-/

namespace Gaea.Server

open Gaea.Util.Bucketpool (wrapInt)

/-- `SQLExecTimeSize`. -/
def sqlExecTimeSize : Nat := 5000

/-- `SQLExecTimeRecord`; its slice name is never read. -/
structure SQLExecTimeRecord where
  backendAddr : String
  execTimeMicro : Int
  deriving DecidableEq, Repr

/-- The part of `SQLResponse` that `CalcAvgSQLTimes` writes. -/
structure SQLResponse where
  sqlExecTimeRecordSwitch : Bool
  response99Max : String → Option Int
  response99Avg : String → Option Int
  response95Max : String → Option Int
  response95Avg : String → Option Int

/-- The `for !quit` loop of `CalcAvgSQLTimes` over the records the channel delivers before
the timeout: it stops once a record arrives when `SQLExecTimeSize` times are already held,
after appending that record too. -/
def drainSQLExecTimes :
    List SQLExecTimeRecord → List Int → String → List Int × String
  | [], sqlTimesMicro, backendAddr => (sqlTimesMicro, backendAddr)
  | tmp :: received, sqlTimesMicro, _ =>
      if sqlTimesMicro.length ≥ sqlExecTimeSize then
        (sqlTimesMicro ++ [tmp.execTimeMicro], tmp.backendAddr)
      else drainSQLExecTimes received (sqlTimesMicro ++ [tmp.execTimeMicro]) tmp.backendAddr

/-- `sum += sqlTimesMicro[k]` over the first `count` sorted times, in 64 bits. -/
def sumFirst (sqlTimesMicro : List Int) (count : Nat) : Int :=
  (sqlTimesMicro.take count).foldl (fun sum t => wrapInt (sum + t)) 0

namespace SQLResponse

/-- The body of `CalcAvgSQLTimes` for one namespace whose channel delivers `received`
before the timeout. -/
def calcAvgSQLTimes (s : SQLResponse) (received : List SQLExecTimeRecord) : SQLResponse :=
  let (sqlTimesMicro, backendAddr) := drainSQLExecTimes received [] ""
  if sqlTimesMicro.length = 0 then
    { s with
      response99Max := Function.update s.response99Max backendAddr (some 0)
      response95Max := Function.update s.response95Max backendAddr (some 0)
      response99Avg := Function.update s.response99Avg backendAddr (some 0)
      response95Avg := Function.update s.response95Avg backendAddr (some 0)
      sqlExecTimeRecordSwitch := true }
  else
    let sqlTimesMicro := sqlTimesMicro.insertionSort (· ≤ ·)
    let len := sqlTimesMicro.length
    { s with
      response99Max := Function.update s.response99Max backendAddr
        (some (sqlTimesMicro.getD ((len - 1) * 99 / 100) 0))
      response95Max := Function.update s.response95Max backendAddr
        (some (sqlTimesMicro.getD ((len - 1) * 95 / 100) 0))
      response99Avg := if len * 99 / 100 > 0 then
          Function.update s.response99Avg backendAddr
            (some ((sumFirst sqlTimesMicro (len * 99 / 100)).tdiv (len * 99 / 100)))
        else s.response99Avg
      response95Avg := if len * 95 / 100 > 0 then
          Function.update s.response95Avg backendAddr
            (some ((sumFirst sqlTimesMicro (len * 95 / 100)).tdiv (len * 95 / 100)))
        else s.response95Avg
      sqlExecTimeRecordSwitch := true }

end SQLResponse

/-! ### What the drain keeps -/

/-- The drain keeps the first `SQLExecTimeSize + 1` records delivered, and the address of
the last one kept. -/
theorem drainSQLExecTimes_eq :
    ∀ (received : List SQLExecTimeRecord) (sqlTimesMicro : List Int) (backendAddr : String),
      sqlTimesMicro.length ≤ sqlExecTimeSize →
      drainSQLExecTimes received sqlTimesMicro backendAddr =
        (sqlTimesMicro ++ (received.take (sqlExecTimeSize + 1 - sqlTimesMicro.length)).map
            SQLExecTimeRecord.execTimeMicro,
          (((received.take (sqlExecTimeSize + 1 - sqlTimesMicro.length)).getLast?).map
            SQLExecTimeRecord.backendAddr).getD backendAddr)
  | [], _, _, _ => by simp [drainSQLExecTimes]
  | tmp :: received, sqlTimesMicro, backendAddr, hlen => by
      have htake : sqlExecTimeSize + 1 - sqlTimesMicro.length =
          (sqlExecTimeSize - sqlTimesMicro.length) + 1 := by omega
      rw [htake, List.take_succ_cons]
      by_cases hfull : sqlTimesMicro.length ≥ sqlExecTimeSize
      · have hzero : sqlExecTimeSize - sqlTimesMicro.length = 0 := by omega
        simp [drainSQLExecTimes, hfull, hzero]
      · rw [drainSQLExecTimes, if_neg hfull,
          drainSQLExecTimes_eq received _ _ (by simp; omega)]
        have hrest : sqlExecTimeSize + 1 - (sqlTimesMicro ++ [tmp.execTimeMicro]).length =
            sqlExecTimeSize - sqlTimesMicro.length := by simp
        rw [hrest, List.getLast?_cons]
        simp

/-- The records one tick drains: the first `SQLExecTimeSize + 1` delivered. -/
def drained (received : List SQLExecTimeRecord) : List SQLExecTimeRecord :=
  received.take (sqlExecTimeSize + 1)

/-- The address `CalcAvgSQLTimes` writes under: the last drained record's, `""` when none
was drained. -/
def lastBackendAddr (received : List SQLExecTimeRecord) : String :=
  ((drained received).getLast?.map SQLExecTimeRecord.backendAddr).getD ""

theorem drainSQLExecTimes_nil_eq (received : List SQLExecTimeRecord) :
    drainSQLExecTimes received [] "" =
      ((drained received).map SQLExecTimeRecord.execTimeMicro, lastBackendAddr received) := by
  rw [drainSQLExecTimes_eq received [] "" (Nat.zero_le _)]
  rfl

/-- Sorting forgets the order the times were drained in. -/
theorem insertionSort_eq_of_perm {times times' : List Int} (h : times.Perm times') :
    times.insertionSort (· ≤ ·) = times'.insertionSort (· ≤ ·) :=
  List.eq_of_perm_of_sorted
    (((List.perm_insertionSort _ times).trans h).trans (List.perm_insertionSort _ times').symm)
    (List.sorted_insertionSort _ times) (List.sorted_insertionSort _ times')

namespace SQLResponse

/-- `CalcAvgSQLTimes` writes the four maps under one key only: the address of the last
record drained, or `""` when none was. -/
theorem calcAvgSQLTimes_of_ne (s : SQLResponse) (received : List SQLExecTimeRecord)
    {key : String} (hkey : key ≠ lastBackendAddr received) :
    (s.calcAvgSQLTimes received).response99Max key = s.response99Max key ∧
      (s.calcAvgSQLTimes received).response95Max key = s.response95Max key ∧
      (s.calcAvgSQLTimes received).response99Avg key = s.response99Avg key ∧
      (s.calcAvgSQLTimes received).response95Avg key = s.response95Avg key := by
  unfold calcAvgSQLTimes
  rw [drainSQLExecTimes_nil_eq]
  dsimp only
  split
  · simp [Function.update_noteq hkey]
  · refine ⟨by simp [Function.update_noteq hkey], by simp [Function.update_noteq hkey], ?_, ?_⟩ <;>
      dsimp only <;> split <;> simp [Function.update_noteq hkey]

/-- What `CalcAvgSQLTimes` writes depends on the drained records only through the address
of the last one and the times of all of them, in any order. -/
theorem calcAvgSQLTimes_eq_of_perm (s : SQLResponse) {received received' : List SQLExecTimeRecord}
    (haddr : lastBackendAddr received = lastBackendAddr received')
    (htimes : ((drained received).map SQLExecTimeRecord.execTimeMicro).Perm
      ((drained received').map SQLExecTimeRecord.execTimeMicro)) :
    s.calcAvgSQLTimes received = s.calcAvgSQLTimes received' := by
  unfold calcAvgSQLTimes
  rw [drainSQLExecTimes_nil_eq, drainSQLExecTimes_nil_eq, haddr]
  dsimp only
  rw [htimes.length_eq, insertionSort_eq_of_perm htimes]

/-- Every tick, `CalcAvgSQLTimes` writes under the address of the last record drained only,
and what it writes there is computed from the times of every record drained, whichever
backend each came from. -/
theorem calcAvgSQLTimes_pools_every_backend (s : SQLResponse)
    (received received' : List SQLExecTimeRecord) :
    (∀ key, key ≠ lastBackendAddr received →
      (s.calcAvgSQLTimes received).response99Max key = s.response99Max key ∧
      (s.calcAvgSQLTimes received).response95Max key = s.response95Max key ∧
      (s.calcAvgSQLTimes received).response99Avg key = s.response99Avg key ∧
      (s.calcAvgSQLTimes received).response95Avg key = s.response95Avg key) ∧
    (lastBackendAddr received = lastBackendAddr received' →
      ((drained received).map SQLExecTimeRecord.execTimeMicro).Perm
        ((drained received').map SQLExecTimeRecord.execTimeMicro) →
      s.calcAvgSQLTimes received = s.calcAvgSQLTimes received') :=
  ⟨fun _ hkey => calcAvgSQLTimes_of_ne s received hkey,
    fun haddr htimes => calcAvgSQLTimes_eq_of_perm s haddr htimes⟩

/-- Backend `b`'s query takes 100 µs after one of `a` that takes 1 µs, or 1 µs after one of
`c` that takes 100 µs: `a` gets no entry, and `b` is reported with the same values either
way. -/
theorem calcAvgSQLTimes_pools_every_backend_two_backends :
    (SQLResponse.calcAvgSQLTimes ⟨false, fun _ => none, fun _ => none, fun _ => none, fun _ => none⟩
        [⟨"a", 1⟩, ⟨"b", 100⟩]).response99Max "a" = none ∧
    SQLResponse.calcAvgSQLTimes ⟨false, fun _ => none, fun _ => none, fun _ => none, fun _ => none⟩
        [⟨"a", 1⟩, ⟨"b", 100⟩] =
      SQLResponse.calcAvgSQLTimes ⟨false, fun _ => none, fun _ => none, fun _ => none, fun _ => none⟩
        [⟨"c", 100⟩, ⟨"b", 1⟩] :=
  ⟨((calcAvgSQLTimes_pools_every_backend _ [⟨"a", 1⟩, ⟨"b", 100⟩] [⟨"c", 100⟩, ⟨"b", 1⟩]).1 "a"
      (by decide)).1,
    (calcAvgSQLTimes_pools_every_backend _ [⟨"a", 1⟩, ⟨"b", 100⟩] [⟨"c", 100⟩, ⟨"b", 1⟩]).2
      (by decide) (by decide)⟩

/-- The failing input: backend `a` answers in 1 µs, then backend `b` in 100 µs. `b`'s
P99/P95 maximum and average are all 1 µs, `a` gets no entry, and an empty tick writes
zeros under the address `""`. -/
theorem calcAvgSQLTimes_reports_pooled_times_under_last_addr :
    (SQLResponse.calcAvgSQLTimes ⟨false, fun _ => none, fun _ => none, fun _ => none, fun _ => none⟩
        [⟨"a", 1⟩, ⟨"b", 100⟩]).response99Max "b" = some 1 ∧
    (SQLResponse.calcAvgSQLTimes ⟨false, fun _ => none, fun _ => none, fun _ => none, fun _ => none⟩
        [⟨"a", 1⟩, ⟨"b", 100⟩]).response95Max "b" = some 1 ∧
    (SQLResponse.calcAvgSQLTimes ⟨false, fun _ => none, fun _ => none, fun _ => none, fun _ => none⟩
        [⟨"a", 1⟩, ⟨"b", 100⟩]).response99Avg "b" = some 1 ∧
    (SQLResponse.calcAvgSQLTimes ⟨false, fun _ => none, fun _ => none, fun _ => none, fun _ => none⟩
        [⟨"a", 1⟩, ⟨"b", 100⟩]).response95Avg "b" = some 1 ∧
    (SQLResponse.calcAvgSQLTimes ⟨false, fun _ => none, fun _ => none, fun _ => none, fun _ => none⟩
        [⟨"a", 1⟩, ⟨"b", 100⟩]).response99Max "a" = none ∧
    (SQLResponse.calcAvgSQLTimes ⟨false, fun _ => none, fun _ => none, fun _ => none, fun _ => none⟩
        []).response99Max "" = some 0 := by
  decide

end SQLResponse

end Gaea.Server
