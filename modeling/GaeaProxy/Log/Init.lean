import GaeaProxy.Log.Spliter

/-! # Starting the file logger

`Init` requires `path`, `filename` and `level`, in that order, makes the directory when it is
not one, starts `spliter` unless `dosplit` is set to anything but `"true"`, with keep settings
`strconv.Atoi` never lets be zero, and returns the error of its final `ReOpen`
(`init_outcome`). `LevelFromStr`, `DebugLevel`, whether the path is a directory, what
`os.MkdirAll` and each `os.OpenFile` return are parameters; `Atoi` is modelled on a 64-bit
platform.
-/

namespace Gaea.Log.Xlog

/-- `DefaultLogKeepDays`. -/
def defaultLogKeepDays : Int := 3

/-- `DefaultLogKeepCounts`. -/
def defaultLogKeepCounts : Int := 72

/-! ### `strconv.Atoi` -/

/-- The sign `Atoi` strips: a leading `-` or `+`. -/
def splitSign : List Char → Bool × List Char
  | '-' :: digits => (true, digits)
  | '+' :: digits => (false, digits)
  | digits => (false, digits)

/-- The value of a string of decimal digits. -/
def digitsValue (digits : List Char) : Nat :=
  digits.foldl (fun n c => n * 10 + (c.toNat - '0'.toNat)) 0

/-- Go's `strconv.Atoi` on a 64-bit platform: an optional sign, then one or more decimal
digits and nothing else, with a value in the range of `int`; `none` is its error. -/
def atoi (s : String) : Option Int :=
  if (splitSign s.data).2 ≠ [] ∧ (splitSign s.data).2.all Char.isDigit then
    let value : Int := if (splitSign s.data).1 then -(digitsValue (splitSign s.data).2 : Int)
      else digitsValue (splitSign s.data).2
    if -2 ^ 63 ≤ value ∧ value < 2 ^ 63 then some value else none
  else none

example : atoi "168" = some 168 ∧ atoi "-1" = some (-1) ∧ atoi "" = none ∧ atoi "7d" = none ∧
    atoi "+" = none := by
  decide

/-! ### `Init` -/

/-- What `Init` reads besides its map: `LevelFromStr` and `DebugLevel`, whether the path is a
directory (`false` when `os.Stat` fails), and the error `os.MkdirAll` returns. -/
structure InitEnv where
  levelFromStr : String → Int
  debugLevel : Int
  isDir : String → Bool
  mkdirAll : String → Option String

/-- The fields of `XFileLog` that `Init` sets, and the keep settings (`keepDays`,
`logKeepCounts`) of the `spliter` it starts, `none` when it does not split. -/
structure Logger where
  file : XFileLog
  level : Int
  service : String
  runtime : Bool
  skip : Int
  spliter : Option (Int × Int)

/-- `config[key]` for a key `Init` requires; the error names the key. -/
def requireKey (config : String → Option String) (key : String) : Except String String :=
  match config key with
  | some value => .ok value
  | none => .error ("init XFileLog failed, not found " ++ key)

/-- A keep setting: `config[key]` when `Atoi` parses it to a nonzero value, `default`
otherwise; a missing key reads as `""`. -/
def keepSetting (config : String → Option String) (key : String) (default : Int) : Int :=
  match atoi ((config key).getD "") with
  | some value => if value ≠ 0 then value else default
  | none => default

/-- The skip number: `Atoi` of a non-empty `config["skip"]` when it parses, `skip` otherwise. -/
def skipSetting (config : String → Option String) (skip : Int) : Int :=
  match config "skip" with
  | some s => if s.length > 0 then (atoi s).getD skip else skip
  | none => skip

/-- What `Init` leaves once it gets to its final `ReOpen`: the logger, the directory and
handles `ReOpen` left, and its error, which `Init` returns. -/
structure Initialized where
  logger : Logger
  logs : LogState
  reOpenError : Option String

/-- `XFileLog.Init(config)` on a logger from `NewXFileLog`, whose skip number is `skip` and
whose handles are nil, with the directory `d` at time `now`; `errs` is what the `os.OpenFile`
calls of its `ReOpen` return. -/
def initFromConfig (env : InitEnv) (skip : Int) (config : String → Option String) (d : LogDir)
    (now : Int) (errs : OpenErrors) : Except String Initialized := do
  let path ← requireKey config "path"
  let filename ← requireKey config "filename"
  let level ← requireKey config "level"
  if !env.isDir path then
    match env.mkdirAll path with
    | some err => throw ("Mkdir failed, err:" ++ err)
    | none => pure ()
  let file : XFileLog := ⟨path, filename⟩
  let runtime := decide ((config "runtime" = none ∨ config "runtime" = some "true" ∨
    config "runtime" = some "TRUE") ∧ env.levelFromStr level = env.debugLevel)
  let spliter := if (config "dosplit").getD "true" = "true" then
      some (keepSetting config "log_keep_days" defaultLogKeepDays,
        keepSetting config "log_keep_counts" defaultLogKeepCounts)
    else none
  let reOpened := file.reOpen ⟨d, .nil, .nil⟩ now errs
  return ⟨⟨file, env.levelFromStr level, (config "service").getD "", runtime,
    skipSetting config skip, spliter⟩, reOpened.1, reOpened.2⟩

/-- The error `Init` returns: one before its `ReOpen`, or `ReOpen`'s. -/
def initError : Except String Initialized → Option String
  | .error err => some err
  | .ok i => i.reOpenError

/-- A keep setting is never zero when its default is not. -/
theorem keepSetting_ne_zero (config : String → Option String) (key : String) {default : Int}
    (hdefault : default ≠ 0) : keepSetting config key default ≠ 0 := by
  unfold keepSetting
  split
  · split <;> assumption
  · exact hdefault

/-- From any state `ReOpen` has just left, `spliter` and the logger keep the run bound. -/
theorem XFileLog.bounded_run_of_reOpen (p : XFileLog) (logKeepCounts : Int) (s : LogState)
    (now : Int) (errs : OpenErrors) (hour : Nat) (stamp : String) (events : List Event) :
    p.Bounded logKeepCounts (p.run logKeepCounts ⟨(p.reOpen s now errs).1, hour, stamp⟩ events).logs
      (events.any Event.isTick) := by
  simpa using @XFileLog.Bounded.run p logKeepCounts ⟨(p.reOpen s now errs).1, hour, stamp⟩ false
    ⟨p.reOpen_live s now errs, nofun⟩ events

example : keepSetting (fun key => if key = "log_keep_counts" then some "-1" else none)
      "log_keep_counts" defaultLogKeepCounts = -1 ∧
    keepSetting (fun _ => some "0") "log_keep_days" defaultLogKeepDays = 3 := by
  decide

/-- What `Init` does: it fails at the first missing key of `path`, `filename` and `level`,
naming it, or when the directory can neither be found nor made; otherwise it gets to its
`ReOpen`. -/
theorem initFromConfig_eq (env : InitEnv) (skip : Int) (config : String → Option String)
    (d : LogDir) (now : Int) (errs : OpenErrors) :
    initFromConfig env skip config d now errs =
      match config "path", config "filename", config "level" with
      | none, _, _ => .error "init XFileLog failed, not found path"
      | some _, none, _ => .error "init XFileLog failed, not found filename"
      | some _, some _, none => .error "init XFileLog failed, not found level"
      | some path, some filename, some level =>
          match env.isDir path, env.mkdirAll path with
          | false, some err => .error ("Mkdir failed, err:" ++ err)
          | _, _ => .ok ⟨⟨⟨path, filename⟩, env.levelFromStr level, (config "service").getD "",
              decide ((config "runtime" = none ∨ config "runtime" = some "true" ∨
                config "runtime" = some "TRUE") ∧ env.levelFromStr level = env.debugLevel),
              skipSetting config skip,
              if (config "dosplit").getD "true" = "true" then
                some (keepSetting config "log_keep_days" defaultLogKeepDays,
                  keepSetting config "log_keep_counts" defaultLogKeepCounts)
              else none⟩,
              ((⟨path, filename⟩ : XFileLog).reOpen ⟨d, .nil, .nil⟩ now errs).1,
              ((⟨path, filename⟩ : XFileLog).reOpen ⟨d, .nil, .nil⟩ now errs).2⟩ := by
  unfold initFromConfig requireKey
  rcases config "path" with _ | path <;> rcases config "filename" with _ | filename <;>
    rcases config "level" with _ | level <;> try rfl
  simp only [bind, Except.bind]
  cases env.isDir path <;> cases env.mkdirAll path <;> rfl

/-- `ReOpen` fails exactly when the normal log fails to open, or it opens and the warning log
does not, with an error naming that file by its path. -/
theorem reOpen_snd_eq_some_iff (p : XFileLog) (s : LogState) (now : Int) (errs : OpenErrors)
    (e : String) :
    (p.reOpen s now errs).2 = some e ↔
      (∃ err, errs.normalLog = some err ∧
        e = "open " ++ filePath p.path (p.filename ++ ".log") ++ " failed, err:" ++ err) ∨
      (∃ err, errs.normalLog = none ∧ errs.warnLog = some err ∧
        e = "open " ++ filePath p.path (p.filename ++ ".log.wf") ++ " failed, err:" ++ err) := by
  rw [XFileLog.reOpen_eq]
  obtain ⟨_ | _, _ | _⟩ := errs <;>
    simp [XFileLog.warnLog, XFileLog.normalLog, String.append_assoc, @eq_comm _ e]

end Gaea.Log.Xlog
