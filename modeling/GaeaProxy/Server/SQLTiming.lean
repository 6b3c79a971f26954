import GaeaProxy.Server.Statistics

/-! # The SQL timing channel

Each backend query runs `recordBackendSQLTiming` in a goroutine of its own, which sends the
query's `SQLExecTimeRecord` to its namespace's `sQLExecTimeChan`, a channel buffered for
`SQLExecTimeSize` records, while the namespace's `sqlExecTimeRecordSwitch` is on. A send that
finds the channel full gives up after a millisecond and turns the switch off, and the record is
lost. At each tick `CalcAvgSQLTimes` drains the channel, computes the gauges from what it
drained and turns the switch on again. `NewSQLResponse` starts with the switch off.

So no record is sent before the first tick, and each tick computes the gauges from exactly the
first `SQLExecTimeSize` records of the queries since the tick before it: the channel never
holds more, so the drain, which could take one record more, always empties it, and the records
after those are lost with the switch off until the next tick (`sql_timing_window`).

Each call of `recordBackendSQLTiming` and each tick is one step. The switch is a plain field
that these goroutines read and write without a lock; the model takes the accesses in some
order. A send to a full channel is taken to time out, and the drain to stop when the channel is
empty: a record that a concurrent drain or send would move within the millisecond is left out.
The timing histogram `backendSQLTimings` is left out, and a record is an argument. The
namespaces have their channels apart, so the model follows one.
-/

namespace Gaea.Server

/-- One namespace's `SQLResponse` as `recordBackendSQLTiming` and `CalcAvgSQLTimes` share
it: the part `CalcAvgSQLTimes` writes, and the records waiting in `sQLExecTimeChan`. -/
structure SQLTimingState where
  response : SQLResponse
  sqlExecTimeChan : List SQLExecTimeRecord

/-- `NewSQLResponse(name)`: the switch off, no gauge, an empty channel. -/
def newSQLResponse : SQLTimingState :=
  ⟨⟨false, fun _ => none, fun _ => none, fun _ => none, fun _ => none⟩, []⟩

namespace SQLTimingState

/-- The part of `recordBackendSQLTiming` after the histogram, for a namespace with an
`SQLResponse`: with the switch on, `record` is sent when the channel has room, and otherwise
the timeout turns the switch off. -/
def recordBackendSQLTiming (s : SQLTimingState) (record : SQLExecTimeRecord) : SQLTimingState :=
  if !s.response.sqlExecTimeRecordSwitch then s
  else if s.sqlExecTimeChan.length < sqlExecTimeSize then
    { s with sqlExecTimeChan := s.sqlExecTimeChan ++ [record] }
  else { s with response := { s.response with sqlExecTimeRecordSwitch := false } }

/-- One namespace's turn of `CalcAvgSQLTimes`: the channel delivers what it holds, and the
drain takes at most `SQLExecTimeSize + 1` records of it. -/
def calcAvgSQLTimes (s : SQLTimingState) : SQLTimingState :=
  ⟨s.response.calcAvgSQLTimes s.sqlExecTimeChan, s.sqlExecTimeChan.drop (sqlExecTimeSize + 1)⟩

end SQLTimingState

/-- What happens to one namespace's channel: a backend query's `recordBackendSQLTiming`, or a
tick of `CalcAvgSQLTimes`. -/
inductive TimingEvent where
  | record (r : SQLExecTimeRecord)
  | tick

namespace SQLTimingState

def step (s : SQLTimingState) : TimingEvent → SQLTimingState
  | .record r => s.recordBackendSQLTiming r
  | .tick => s.calcAvgSQLTimes

def run (s : SQLTimingState) : List TimingEvent → SQLTimingState
  | [] => s
  | e :: es => (s.step e).run es

theorem run_append (s : SQLTimingState) (es es' : List TimingEvent) :
    s.run (es ++ es') = (s.run es).run es' := by
  induction es generalizing s with
  | nil => rfl
  | cons e es ih => exact ih (s.step e)

/-! ### One step -/

/-- A full or empty channel stays within `SQLExecTimeSize`. -/
theorem length_step_le {s : SQLTimingState} (hlen : s.sqlExecTimeChan.length ≤ sqlExecTimeSize)
    (e : TimingEvent) : (s.step e).sqlExecTimeChan.length ≤ sqlExecTimeSize := by
  cases e with
  | record r =>
      simp only [step, recordBackendSQLTiming]
      split_ifs with hoff hroom
      · exact hlen
      · simpa using hroom
      · exact hlen
  | tick =>
      simp only [step, calcAvgSQLTimes, List.length_drop]
      omega

/-- `CalcAvgSQLTimes` turns the switch on, whatever the records. -/
theorem switch_calcAvgSQLTimes (r : SQLResponse) (received : List SQLExecTimeRecord) :
    (r.calcAvgSQLTimes received).sqlExecTimeRecordSwitch = true := by
  unfold SQLResponse.calcAvgSQLTimes
  split
  split_ifs <;> rfl

/-- What `CalcAvgSQLTimes` computes does not read the switch. -/
theorem calcAvgSQLTimes_with_switch (r : SQLResponse) (b : Bool)
    (received : List SQLExecTimeRecord) :
    ({ r with sqlExecTimeRecordSwitch := b }).calcAvgSQLTimes received =
      r.calcAvgSQLTimes received := by
  unfold SQLResponse.calcAvgSQLTimes
  split
  rfl

/-- A tick on a channel within `SQLExecTimeSize` drains all of it and turns the switch on. -/
theorem step_tick {s : SQLTimingState} (hlen : s.sqlExecTimeChan.length ≤ sqlExecTimeSize) :
    (s.step .tick).sqlExecTimeChan = [] ∧
      (s.step .tick).response = s.response.calcAvgSQLTimes s.sqlExecTimeChan ∧
      (s.step .tick).response.sqlExecTimeRecordSwitch = true :=
  ⟨List.drop_eq_nil_of_le (by omega), rfl, switch_calcAvgSQLTimes _ _⟩

/-! ### Runs of records -/

/-- With the switch off, records change nothing. -/
theorem run_records_of_switch_off {s : SQLTimingState}
    (hoff : s.response.sqlExecTimeRecordSwitch = false) (rs : List SQLExecTimeRecord) :
    s.run (rs.map .record) = s := by
  induction rs with
  | nil => rfl
  | cons r rs ih =>
      have hstep : s.step (.record r) = s := by simp [step, recordBackendSQLTiming, hoff]
      rw [List.map_cons, run, hstep, ih]

/-- With the switch on, records fill the channel up to `SQLExecTimeSize`, and the first one
that finds it full turns the switch off. -/
theorem run_records_of_switch_on {s : SQLTimingState}
    (hon : s.response.sqlExecTimeRecordSwitch = true)
    (hlen : s.sqlExecTimeChan.length ≤ sqlExecTimeSize) (rs : List SQLExecTimeRecord) :
    (s.run (rs.map .record)).sqlExecTimeChan = (s.sqlExecTimeChan ++ rs).take sqlExecTimeSize ∧
      (s.run (rs.map .record)).response = { s.response with
        sqlExecTimeRecordSwitch :=
          decide ((s.sqlExecTimeChan ++ rs).length ≤ sqlExecTimeSize) } := by
  induction rs generalizing s with
  | nil => simp [run, List.take_of_length_le hlen, hlen, ← hon]
  | cons r rs ih =>
      rw [List.map_cons, run]
      by_cases hroom : s.sqlExecTimeChan.length < sqlExecTimeSize
      · -- sent: the channel grows by `r`
        have hstep :
            s.step (.record r) = { s with sqlExecTimeChan := s.sqlExecTimeChan ++ [r] } := by
          simp [step, recordBackendSQLTiming, hon, hroom]
        rw [hstep]
        simpa using ih (s := { s with sqlExecTimeChan := s.sqlExecTimeChan ++ [r] }) hon
          (by simpa using hroom)
      · -- lost: the switch goes off and stays off
        have hfull : s.sqlExecTimeChan.length = sqlExecTimeSize := by omega
        have hstep : s.step (.record r) =
            { s with response := { s.response with sqlExecTimeRecordSwitch := false } } := by
          simp [step, recordBackendSQLTiming, hon, hroom]
        rw [hstep, run_records_of_switch_off rfl]
        refine ⟨?_, ?_⟩
        · rw [List.take_append_of_le_length hfull.ge, List.take_of_length_le hfull.le]
        · simp [hfull]

/-- The time of one namespace's channel along any run: no record is sent before the first tick;
the channel never holds more than `SQLExecTimeSize` records; after a tick and then any records
`rs`, the channel holds the first `SQLExecTimeSize` of them and the switch is on exactly when
none was lost; and the next tick computes the gauges from exactly those records, with no record
of an earlier window and none of `rs` beyond the first `SQLExecTimeSize`. -/
theorem sql_timing_window (pre : List TimingEvent) (rs : List SQLExecTimeRecord) :
    newSQLResponse.run (rs.map .record) = newSQLResponse ∧
      (newSQLResponse.run pre).sqlExecTimeChan.length ≤ sqlExecTimeSize ∧
      (newSQLResponse.run (pre ++ .tick :: rs.map .record)).sqlExecTimeChan =
        rs.take sqlExecTimeSize ∧
      (newSQLResponse.run (pre ++ .tick :: rs.map .record)).response.sqlExecTimeRecordSwitch =
        decide (rs.length ≤ sqlExecTimeSize) ∧
      (newSQLResponse.run (pre ++ .tick :: rs.map .record ++ [.tick])).response =
        (newSQLResponse.run (pre ++ [.tick])).response.calcAvgSQLTimes
          (rs.take sqlExecTimeSize) := by
  -- the channel stays within its buffer along every run
  have hbound : ∀ (es : List TimingEvent) (s : SQLTimingState),
      s.sqlExecTimeChan.length ≤ sqlExecTimeSize →
        (s.run es).sqlExecTimeChan.length ≤ sqlExecTimeSize := by
    intro es
    induction es with
    | nil => exact fun _ h => h
    | cons e es ih => exact fun s h => ih _ (length_step_le h e)
  have hpre := hbound pre newSQLResponse (by decide)
  obtain ⟨hempty, -, hon⟩ := step_tick hpre
  obtain ⟨hchan, hresponse⟩ := run_records_of_switch_on hon (by simp [hempty]) rs
  rw [hempty, List.nil_append] at hchan hresponse
  refine ⟨run_records_of_switch_off rfl rs, hpre, ?_, ?_, ?_⟩
  · rw [run_append, run, hchan]
  · rw [run_append, run, hresponse]
  · rw [show pre ++ .tick :: rs.map .record ++ [.tick] =
        pre ++ [.tick] ++ rs.map .record ++ [.tick] by simp, run_append, run_append, run_append]
    simp only [run]
    rw [(step_tick (by simp [hchan])).2.1, hchan, hresponse]
    exact calcAvgSQLTimes_with_switch _ _ _

/-- A query before the first tick is lost; one after it waits in the channel. -/
example : (newSQLResponse.run [.record ⟨"a", 1⟩, .tick, .record ⟨"b", 2⟩]).sqlExecTimeChan =
    [⟨"b", 2⟩] := by
  decide

end SQLTimingState

end Gaea.Server
