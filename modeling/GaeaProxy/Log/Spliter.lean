import GaeaProxy.Log.Clean

/-! # Rotating the log files

`spliter` cleans the directory every `SpliterDelay` seconds; when the hour has changed it
cleans again and `rename` moves each non-empty live file to its stamped name unless that name
is taken, before its deferred `ReOpen` opens both live files again. Either `os.OpenFile` may
fail, so a live file can be left missing (`rename_moves_only_live_files`); along any run a
live handle still has its file, and after the first tick no type holds more than
`logKeepCounts + 1` rotated files (`spliter_run_bounded`). The clock and what each
`os.OpenFile` returns are parameters of each step; writes landing in the second before
`delayClose` closes an old file are left out.
-/

namespace Gaea.Log.Xlog

namespace LogDir

/-- The entries after `oldFile` is renamed to `newFile`, which replaces any entry there. -/
def renamedFiles (files : List LogFile) (oldFile newFile : String) : List LogFile :=
  (files.filter (·.name ≠ newFile)).map fun f =>
    if f.name = oldFile then { f with name := newFile } else f

theorem renamedFiles_nodup (d : LogDir) (oldFile newFile : String) :
    ((renamedFiles d.files oldFile newFile).map LogFile.name).Nodup := by
  have hfilter := d.nodup.sublist ((List.filter_sublist (p := fun f : LogFile => f.name ≠ newFile)
    d.files).map LogFile.name)
  rw [renamedFiles, List.map_map]
  refine hfilter.of_map _ |>.map_on fun f hf g hg h => List.inj_on_of_nodup_map hfilter hf hg ?_
  simp only [List.mem_filter, decide_not, Bool.not_eq_true', decide_eq_false_iff_not] at hf hg
  simp only [Function.comp_apply] at h
  split_ifs at h <;> simp_all

/-- `os.Rename(oldFile, newFile)`: the entry moves to the new name, replacing any entry
there; renaming a missing file fails and changes nothing. -/
def rename (d : LogDir) (oldFile newFile : String) : LogDir :=
  if (d.stat oldFile).isSome ∧ oldFile ≠ newFile then
    ⟨renamedFiles d.files oldFile newFile, renamedFiles_nodup d oldFile newFile⟩
  else d

/-- The `O_CREATE` of `os.OpenFile`: an empty file, modified now, when there is none. -/
def create (d : LogDir) (name : String) (now : Int) : LogDir :=
  if h : d.stat name = none then
    ⟨d.files ++ [⟨name, now, 0⟩], by
      simpa [List.nodup_append] using ⟨d.nodup, fun f hf => stat_eq_none_iff.mp h f hf⟩⟩
  else d

/-- `Write` on the open file `name`: it grows by `n` bytes and is modified now. -/
def append (d : LogDir) (name : String) (n : Nat) (now : Int) : LogDir :=
  ⟨d.files.map fun f => if f.name = name then { f with size := f.size + n, modTime := now } else f,
    by
      rw [List.map_map]
      convert d.nodup using 1
      exact List.map_congr_left fun f _ => by simp only [Function.comp_apply]; split <;> rfl⟩

end LogDir

/-- `removeFile(oldFile, newFile)`: an empty `oldFile`, or a `newFile` that exists, is left
alone; otherwise `oldFile` is renamed. -/
def removeFile (d : LogDir) (oldFile newFile : String) : LogDir :=
  if (d.stat oldFile).any (·.size = 0) then d
  else if (d.stat newFile).isSome then d
  else d.rename oldFile newFile

/-- The fields of `XFileLog` its files are named from. -/
structure XFileLog where
  path : String
  filename : String

/-- What `p.file` or `p.errFile` holds: nil, a file `delayClose` has closed, or the file the
last `ReOpen` opened. -/
inductive Handle where
  | nil
  | closed
  | live
  deriving DecidableEq

/-- `go delayClose(fp)`: the file is closed a second later; nil stays nil. -/
def Handle.delayClose : Handle → Handle
  | .nil => .nil
  | _ => .closed

/-- The log directory, with the logger's handles `p.file` and `p.errFile`. -/
structure LogState where
  dir : LogDir
  file : Handle
  errFile : Handle

/-- What the two `os.OpenFile` calls of one `ReOpen` return: `none` when the file opens, the
error otherwise. -/
structure OpenErrors where
  normalLog : Option String
  warnLog : Option String

namespace XFileLog

/-- `normalLog`, `p.path + "/" + p.filename + ".log"`, named in the directory `p.path`. -/
def normalLog (p : XFileLog) : String := p.filename ++ ".log"

/-- `warnLog`, `normalLog + ".wf"`. -/
def warnLog (p : XFileLog) : String := p.normalLog ++ ".wf"

/-- `newLog`, `"%s/%s.log-%s.log"` of the path, the file name and the suffix. -/
def newLog (p : XFileLog) (suffix : String) : String := p.filename ++ ".log-" ++ suffix ++ ".log"

/-- `newWarnLog`, `"%s/%s.log.wf-%s.log.wf"` of the path, the file name and the suffix. -/
def newWarnLog (p : XFileLog) (suffix : String) : String :=
  p.filename ++ ".log.wf-" ++ suffix ++ ".log.wf"

/-- `p.openFile(filename)`: the directory with the file, created when missing, or, when
`os.OpenFile` fails with `err`, the error naming the file. -/
def openFile (p : XFileLog) (d : LogDir) (name : String) (now : Int) :
    Option String → Except String LogDir
  | none => .ok (d.create name now)
  | some err => .error ("open " ++ filePath p.path name ++ " failed, err:" ++ err)

/-- `ReOpen()`: the old handles are closed a second later and the live files opened in turn;
when the warning log fails, `p.file` is closed and both handles are nil. The state it leaves,
and its error. -/
def reOpen (p : XFileLog) (s : LogState) (now : Int) (errs : OpenErrors) :
    LogState × Option String :=
  match p.openFile s.dir p.normalLog now errs.normalLog with
  | .error err => (⟨s.dir, s.file.delayClose, s.errFile.delayClose⟩, some err)
  | .ok dir =>
      match p.openFile dir p.warnLog now errs.warnLog with
      | .error err => (⟨dir, .nil, .nil⟩, some err)
      | .ok dir => (⟨dir, .live, .live⟩, none)

/-- `rename(suffix)`: `removeFile` on both live files unless `p.file` is nil, then the
deferred `ReOpen`, whose error is dropped. -/
def rename (p : XFileLog) (s : LogState) (suffix : String) (now : Int) (errs : OpenErrors) :
    LogState :=
  (p.reOpen (if s.file = .nil then s else
    ⟨removeFile (removeFile s.dir p.normalLog (p.newLog suffix)) p.warnLog (p.newWarnLog suffix),
      s.file, s.errFile⟩) now errs).1

/-- `write(level, msg, logID)`: from `WarnLevel` up the line goes to `p.errFile`, below it to
`p.file`, `toErrFile` being `level >= WarnLevel` and `n` the length of the line; `Write` on a
nil or closed file fails, and its error is dropped. -/
def write (p : XFileLog) (s : LogState) (toErrFile : Bool) (n : Nat) (now : Int) : LogState :=
  if (if toErrFile then s.errFile else s.file) = .live then
    { s with dir := s.dir.append (if toErrFile then p.warnLog else p.normalLog) n now }
  else s

end XFileLog

/-- The state of `spliter`'s loop, with the directory and the logger's handles. -/
structure Spliter where
  logs : LogState
  preHour : Nat
  splitTime : String

/-- What a tick of `spliter` reads from the clock: the time, its hour, its `2006010215` stamp
and the deadline `time.Now().AddDate(0, 0, -keepDays)`; and what the `os.OpenFile` calls of a
rotation's `ReOpen` return. -/
structure Tick where
  now : Int
  hour : Nat
  stamp : String
  deadline : Int
  opened : OpenErrors

/-- A tick of `spliter`, or a line written by the logger. -/
inductive Event where
  | tick (t : Tick)
  | write (toErrFile : Bool) (n : Nat) (now : Int)

namespace XFileLog

/-- `Init`'s final `ReOpen`, from the nil handles of `NewXFileLog`, and the hour and stamp
`spliter` starts from. -/
def init (p : XFileLog) (d : LogDir) (t : Tick) : Spliter :=
  ⟨(p.reOpen ⟨d, .nil, .nil⟩ t.now t.opened).1, t.hour, t.stamp⟩

/-- One pass of `spliter`'s loop after `time.After(time.Second * SpliterDelay)`. -/
def tick (p : XFileLog) (logKeepCounts : Int) (s : Spliter) (t : Tick) : Spliter :=
  let logs := { s.logs with dir := clean s.logs.dir p.path p.filename t.deadline logKeepCounts }
  if t.hour ≠ s.preHour then
    ⟨p.rename { logs with dir := clean logs.dir p.path p.filename t.deadline logKeepCounts }
      s.splitTime t.now t.opened, t.hour, t.stamp⟩
  else { s with logs := logs }

def step (p : XFileLog) (logKeepCounts : Int) (s : Spliter) : Event → Spliter
  | .tick t => p.tick logKeepCounts s t
  | .write toErrFile n now => { s with logs := p.write s.logs toErrFile n now }

def run (p : XFileLog) (logKeepCounts : Int) (s : Spliter) (events : List Event) : Spliter :=
  events.foldl (p.step logKeepCounts) s

end XFileLog

/-! ### What each operation does to the entries -/

namespace LogDir

variable {d : LogDir} {f : LogFile} {oldFile newFile name m : String} {now : Int}

theorem stat_isSome_iff : (d.stat m).isSome ↔ ∃ f ∈ d.files, f.name = m := by
  simp only [Option.isSome_iff_exists, stat_eq_some_iff]

/-- What `os.Rename` leaves was there before, or carries the new name. -/
theorem mem_rename_imp (hf : f ∈ (d.rename oldFile newFile).files) :
    f ∈ d.files ∨ f.name = newFile := by
  unfold rename at hf
  split at hf
  · obtain ⟨g, hg, rfl⟩ := List.mem_map.mp hf
    split <;> simp_all
  · exact .inl hf

/-- `os.Rename` leaves every other name alone. -/
theorem mem_rename_of_ne (hf : f ∈ d.files) (hold : f.name ≠ oldFile) (hnew : f.name ≠ newFile) :
    f ∈ (d.rename oldFile newFile).files := by
  unfold rename
  split
  · exact List.mem_map.mpr ⟨f, List.mem_filter.mpr ⟨hf, by simpa using hnew⟩, by simp [hold]⟩
  · exact hf

/-- The entry `os.Rename` moves keeps what `os.Stat` reports of it. -/
theorem mem_rename_of_eq (hf : f ∈ d.files) (hold : f.name = oldFile) (hne : oldFile ≠ newFile) :
    { f with name := newFile } ∈ (d.rename oldFile newFile).files := by
  unfold rename
  rw [if_pos ⟨stat_isSome_iff.mpr ⟨f, hf, hold⟩, hne⟩]
  exact List.mem_map.mpr ⟨f, List.mem_filter.mpr ⟨hf, by simpa [hold] using hne⟩, by simp [hold]⟩

/-- After `os.Rename` nothing is left under the old name. -/
theorem stat_rename_oldFile (hne : oldFile ≠ newFile) : (d.rename oldFile newFile).stat oldFile = none := by
  refine stat_eq_none_iff.mpr fun f hf hname => ?_
  unfold rename at hf
  split at hf
  · obtain ⟨g, -, rfl⟩ := List.mem_map.mp hf
    split at hname <;> simp_all
  · rename_i hmove
    exact hmove ⟨stat_isSome_iff.mpr ⟨f, hf, hname⟩, hne⟩

theorem mem_create_imp (hf : f ∈ (d.create name now).files) : f ∈ d.files ∨ f.name = name := by
  unfold create at hf
  split at hf
  · rcases List.mem_append.mp hf with hf | hf
    · exact .inl hf
    · exact .inr (by simp_all)
  · exact .inl hf

theorem mem_create_of_mem (hf : f ∈ d.files) : f ∈ (d.create name now).files := by
  unfold create
  split
  · exact List.mem_append_left _ hf
  · exact hf

/-- After `os.OpenFile` with `O_CREATE` the file exists, and so does every other. -/
theorem stat_create_isSome_iff : ((d.create name now).stat m).isSome ↔ m = name ∨ (d.stat m).isSome := by
  constructor
  · intro h
    obtain ⟨f, hf, rfl⟩ := stat_isSome_iff.mp h
    exact (mem_create_imp hf).symm.imp_right fun hf => stat_isSome_iff.mpr ⟨f, hf, rfl⟩
  · rintro (rfl | h)
    · unfold create
      split
      · exact stat_isSome_iff.mpr ⟨_, List.mem_append_right _ (List.mem_singleton_self _), rfl⟩
      · simpa [Option.isSome_iff_ne_none] using ‹_›
    · obtain ⟨f, hf, rfl⟩ := stat_isSome_iff.mp h
      exact stat_isSome_iff.mpr ⟨f, mem_create_of_mem hf, rfl⟩

/-- A write changes no name. -/
theorem stat_append_isSome (n : Nat) :
    ((d.append name n now).stat m).isSome = (d.stat m).isSome := by
  simp only [stat, append, List.find?_map, Option.isSome_map']
  congr 2
  funext f
  simp only [Function.comp_apply]
  split <;> rfl

/-- A directory whose entries satisfying `q` were all in `d`, but for those of one name, holds
at most one more of them. -/
theorem countP_le_add_one {d' : LogDir} {q : LogFile → Bool} (name : String)
    (h : ∀ f ∈ d'.files, q f = true → f ∈ d.files ∨ f.name = name) :
    d'.files.countP q ≤ d.files.countP q + 1 := by
  have hnodup : (d'.files.filter q).Nodup := (d'.nodup.of_map _).filter _
  -- the entries of `d'` called `name` are at most one
  have hone : (d'.files.filter (·.name = name)).length ≤ 1 := by
    have hnames := d'.nodup.sublist ((List.filter_sublist (p := fun f : LogFile => f.name = name)
      d'.files).map LogFile.name)
    have hrep : (d'.files.filter (·.name = name)).map LogFile.name =
        List.replicate (d'.files.filter (·.name = name)).length name :=
      List.eq_replicate_iff.mpr ⟨List.length_map _ _, fun b hb => by
        obtain ⟨f, hf, rfl⟩ := List.mem_map.mp hb
        simpa using (List.mem_filter.mp hf).2⟩
    rwa [hrep, List.nodup_replicate] at hnames
  rw [List.countP_eq_length_filter, List.countP_eq_length_filter]
  calc (d'.files.filter q).length
      ≤ (d.files.filter q ++ d'.files.filter (·.name = name)).length :=
        (hnodup.subperm fun f hf => by
          obtain ⟨hf', hq⟩ := List.mem_filter.mp hf
          rcases h f hf' hq with hd | hname
          · exact List.mem_append_left _ (List.mem_filter.mpr ⟨hd, hq⟩)
          · exact List.mem_append_right _ (List.mem_filter.mpr ⟨hf', by simpa using hname⟩)).length_le
    _ ≤ (d.files.filter q).length + 1 := by rw [List.length_append]; omega

end LogDir

section RemoveFile

variable {d : LogDir} {f : LogFile} {oldFile newFile : String}

theorem mem_removeFile_imp (hf : f ∈ (removeFile d oldFile newFile).files) :
    f ∈ d.files ∨ f.name = newFile := by
  unfold removeFile at hf
  split_ifs at hf
  · exact .inl hf
  · exact .inl hf
  · exact LogDir.mem_rename_imp hf

/-- `removeFile` leaves every entry but `oldFile` alone: it renames only onto a free name. -/
theorem mem_removeFile_of_ne (newFile : String) (hf : f ∈ d.files) (hold : f.name ≠ oldFile) :
    f ∈ (removeFile d oldFile newFile).files := by
  unfold removeFile
  split_ifs with hempty hexists
  · exact hf
  · exact hf
  · exact LogDir.mem_rename_of_ne hf hold fun hnew => hexists (LogDir.stat_isSome_iff.mpr ⟨f, hf, hnew⟩)

/-- `oldFile` stays, or moves under the new name with all `os.Stat` reports of it. -/
theorem removeFile_of_eq (newFile : String) (hf : f ∈ d.files) (hold : f.name = oldFile) :
    f ∈ (removeFile d oldFile newFile).files ∨
      { f with name := newFile } ∈ (removeFile d oldFile newFile).files := by
  unfold removeFile
  split_ifs
  · exact .inl hf
  · exact .inl hf
  · by_cases hne : oldFile = newFile
    · exact .inl (by simpa [LogDir.rename, hne] using hf)
    · exact .inr (LogDir.mem_rename_of_eq hf hold hne)

/-- `os.Stat` of any other name is what it was. -/
theorem stat_removeFile_of_ne {m : String} (hold : m ≠ oldFile) (hnew : m ≠ newFile) :
    (removeFile d oldFile newFile).stat m = d.stat m := by
  cases h : d.stat m with
  | none =>
      exact LogDir.stat_eq_none_iff.mpr fun f hf hname =>
        LogDir.stat_eq_none_iff.mp h f ((mem_removeFile_imp hf).resolve_right (hname ▸ hnew)) hname
  | some f =>
      obtain ⟨hf, rfl⟩ := LogDir.stat_eq_some_iff.mp h
      exact LogDir.stat_eq_some_iff.mpr ⟨mem_removeFile_of_ne _ hf hold, rfl⟩

/-- `oldFile` is still there exactly when it was, and it is empty or `newFile` is taken. -/
theorem stat_removeFile_oldFile (hne : oldFile ≠ newFile) :
    ((removeFile d oldFile newFile).stat oldFile).isSome ↔
      (d.stat oldFile).isSome ∧ ((d.stat oldFile).any (·.size = 0) ∨ (d.stat newFile).isSome) := by
  unfold removeFile
  split_ifs with hempty hexists
  · cases h : d.stat oldFile <;> simp_all
  · simp [hexists]
  · simp [LogDir.stat_rename_oldFile hne, hempty, hexists]

end RemoveFile

/-- `delayClose` never leaves a live file. -/
@[simp] theorem Handle.delayClose_ne_live (h : Handle) : h.delayClose ≠ .live := by
  cases h <;> decide

namespace LogState

/-- Whether `rename` leaves the live file `live` in place: it is there, and `p.file` is nil,
or it is empty, or its stamped name `stamped` is taken. -/
def keepsInPlace (s : LogState) (live stamped : String) : Prop :=
  (s.dir.stat live).isSome ∧
    (s.file = .nil ∨ (s.dir.stat live).any (·.size = 0) ∨ (s.dir.stat stamped).isSome)

instance (s : LogState) (live stamped : String) : Decidable (s.keepsInPlace live stamped) :=
  inferInstanceAs (Decidable ((s.dir.stat live).isSome ∧ (s.file = .nil ∨
    (s.dir.stat live).any (fun f : LogFile => f.size = 0) ∨ (s.dir.stat stamped).isSome)))

end LogState

namespace XFileLog

variable (p : XFileLog)

/-- The live files are the ones `canSkipClean` skips. -/
theorem canSkipClean_normalLog : canSkipClean p.normalLog p.filename = true := by
  simp [canSkipClean, normalLog]

theorem canSkipClean_warnLog : canSkipClean p.warnLog p.filename = true := by
  simp [canSkipClean, warnLog, normalLog, String.append_assoc]

theorem normalLog_ne_warnLog : p.normalLog ≠ p.warnLog := fun h => by
  simpa [normalLog, warnLog] using congrArg String.data h

theorem newLog_ne_warnLog (suffix : String) : p.newLog suffix ≠ p.warnLog := fun h => by
  simpa [newLog, warnLog, normalLog] using congrArg String.data h

theorem normalLog_ne_newLog (suffix : String) : p.normalLog ≠ p.newLog suffix := fun h => by
  simpa [normalLog, newLog] using congrArg String.data h

theorem normalLog_ne_newWarnLog (suffix : String) : p.normalLog ≠ p.newWarnLog suffix := fun h => by
  simpa [normalLog, newWarnLog] using congrArg String.data h

theorem warnLog_ne_newWarnLog (suffix : String) : p.warnLog ≠ p.newWarnLog suffix := fun h => by
  simpa [warnLog, normalLog, newWarnLog] using congrArg String.data h

theorem newLog_ne_newWarnLog (suffix : String) : p.newLog suffix ≠ p.newWarnLog suffix := fun h => by
  simpa [newLog, newWarnLog] using congrArg String.data h

/-- The two stamped names are of two types. -/
theorem fileType_newLog_ne (suffix : String) :
    fileType (filePath p.path (p.newLog suffix)) ≠ fileType (filePath p.path (p.newWarnLog suffix)) :=
  fun h => by
    simpa [fileType, filePath, newLog, newWarnLog, List.filter_append] using congrArg String.data h

/-- What `ReOpen` does, by what its two `os.OpenFile` calls return. -/
theorem reOpen_eq (s : LogState) (now : Int) (errs : OpenErrors) :
    p.reOpen s now errs =
      match errs.normalLog, errs.warnLog with
      | some err, _ => (⟨s.dir, s.file.delayClose, s.errFile.delayClose⟩,
          some ("open " ++ filePath p.path p.normalLog ++ " failed, err:" ++ err))
      | none, some err => (⟨s.dir.create p.normalLog now, .nil, .nil⟩,
          some ("open " ++ filePath p.path p.warnLog ++ " failed, err:" ++ err))
      | none, none => (⟨(s.dir.create p.normalLog now).create p.warnLog now, .live, .live⟩, none) := by
  obtain ⟨_ | _, _ | _⟩ := errs <;> rfl

variable {s : LogState} {now : Int} {errs : OpenErrors}

/-- `ReOpen` leaves `p.file` live exactly when both files opened. -/
theorem reOpen_file_live : (p.reOpen s now errs).1.file = .live ↔ errs.normalLog = none ∧ errs.warnLog = none := by
  rw [reOpen_eq]; obtain ⟨_ | _, _ | _⟩ := errs <;> simp

theorem reOpen_errFile_live :
    (p.reOpen s now errs).1.errFile = .live ↔ errs.normalLog = none ∧ errs.warnLog = none := by
  rw [reOpen_eq]; obtain ⟨_ | _, _ | _⟩ := errs <;> simp

theorem stat_reOpen_normalLog :
    ((p.reOpen s now errs).1.dir.stat p.normalLog).isSome ↔
      errs.normalLog = none ∨ (s.dir.stat p.normalLog).isSome := by
  rw [reOpen_eq]
  obtain ⟨_ | _, _ | _⟩ := errs <;> simp [LogDir.stat_create_isSome_iff, p.normalLog_ne_warnLog]

theorem stat_reOpen_warnLog :
    ((p.reOpen s now errs).1.dir.stat p.warnLog).isSome ↔
      errs.normalLog = none ∧ errs.warnLog = none ∨ (s.dir.stat p.warnLog).isSome := by
  rw [reOpen_eq]
  obtain ⟨_ | _, _ | _⟩ := errs <;> simp [LogDir.stat_create_isSome_iff, p.normalLog_ne_warnLog.symm]

/-- `ReOpen` adds at most the two live files. -/
theorem mem_reOpen_imp {f : LogFile} (hf : f ∈ (p.reOpen s now errs).1.dir.files) :
    f ∈ s.dir.files ∨ f.name = p.normalLog ∨ f.name = p.warnLog := by
  rw [reOpen_eq] at hf
  obtain ⟨_ | _, _ | _⟩ := errs <;> dsimp only at hf
  · rcases LogDir.mem_create_imp hf with hf | hwarn
    · exact (LogDir.mem_create_imp hf).imp_right .inl
    · exact .inr (.inr hwarn)
  · exact (LogDir.mem_create_imp hf).imp_right .inl
  · exact .inl hf
  · exact .inl hf

/-- `ReOpen` removes nothing. -/
theorem mem_reOpen_of_mem {f : LogFile} (hf : f ∈ s.dir.files) : f ∈ (p.reOpen s now errs).1.dir.files := by
  rw [reOpen_eq]
  obtain ⟨_ | _, _ | _⟩ := errs <;> simp [LogDir.mem_create_of_mem, hf]

/-- A live handle has its file. -/
structure Live (s : LogState) : Prop where
  file : s.file = .live → (s.dir.stat p.normalLog).isSome
  errFile : s.errFile = .live → (s.dir.stat p.warnLog).isSome

/-- Whatever it starts from, `ReOpen` leaves a handle live only on a file it opened. -/
theorem reOpen_live (s : LogState) (now : Int) (errs : OpenErrors) : p.Live (p.reOpen s now errs).1 :=
  ⟨fun h => (p.stat_reOpen_normalLog).mpr (.inl ((p.reOpen_file_live).mp h).1),
    fun h => (p.stat_reOpen_warnLog).mpr (.inl ((p.reOpen_errFile_live).mp h))⟩

variable {suffix : String}

/-- What the rotation leaves was there before, or carries a stamped or a live name. -/
theorem mem_rename_imp {f : LogFile} (hf : f ∈ (p.rename s suffix now errs).dir.files) :
    f ∈ s.dir.files ∨ f.name = p.newLog suffix ∨ f.name = p.newWarnLog suffix ∨
      f.name = p.normalLog ∨ f.name = p.warnLog := by
  unfold rename at hf
  rcases p.mem_reOpen_imp hf with hf | hlive
  · split_ifs at hf
    · exact .inl hf
    rcases mem_removeFile_imp hf with hf | hnewWarn
    · exact (mem_removeFile_imp hf).imp_right .inl
    · exact .inr (.inr (.inl hnewWarn))
  · exact .inr (.inr (.inr hlive))

/-- A rotation adds at most one counted file of each type: the two stamped names are of two
types, and the live names are not counted. -/
theorem countOfType_rename_le (s : LogState) (suffix : String) (now : Int) (errs : OpenErrors)
    (t : String) :
    countOfType (p.rename s suffix now errs).dir p.path p.filename t ≤
      countOfType s.dir p.path p.filename t + 1 := by
  refine LogDir.countP_le_add_one
    (if fileType (filePath p.path (p.newLog suffix)) = t then p.newLog suffix
      else p.newWarnLog suffix) fun f hf hcounted => ?_
  simp only [counted, Bool.and_eq_true, Bool.not_eq_true', beq_iff_eq] at hcounted
  obtain ⟨⟨-, hlive⟩, rfl⟩ := hcounted
  rcases p.mem_rename_imp hf with hd | hname | hname | hname | hname
  · exact .inl hd
  · exact .inr (by simp [hname])
  · have := p.fileType_newLog_ne suffix
    exact .inr (by rw [if_neg (by rwa [← hname] at this)]; exact hname)
  · exact absurd (hname ▸ p.canSkipClean_normalLog) (by simp [hlive])
  · exact absurd (hname ▸ p.canSkipClean_warnLog) (by simp [hlive])

theorem stat_rename_normalLog :
    ((p.rename s suffix now errs).dir.stat p.normalLog).isSome ↔
      errs.normalLog = none ∨ s.keepsInPlace p.normalLog (p.newLog suffix) := by
  rw [rename, stat_reOpen_normalLog, LogState.keepsInPlace]
  split_ifs with hnil
  · simp [hnil]
  · dsimp only
    rw [stat_removeFile_of_ne p.normalLog_ne_warnLog (p.normalLog_ne_newWarnLog suffix),
      stat_removeFile_oldFile (p.normalLog_ne_newLog suffix)]
    simp [hnil]

theorem stat_rename_warnLog :
    ((p.rename s suffix now errs).dir.stat p.warnLog).isSome ↔
      errs.normalLog = none ∧ errs.warnLog = none ∨ s.keepsInPlace p.warnLog (p.newWarnLog suffix) := by
  rw [rename, stat_reOpen_warnLog, LogState.keepsInPlace]
  split_ifs with hnil
  · simp [hnil]
  · dsimp only
    rw [stat_removeFile_oldFile (p.warnLog_ne_newWarnLog suffix),
      stat_removeFile_of_ne p.normalLog_ne_warnLog.symm (p.newLog_ne_warnLog suffix).symm,
      stat_removeFile_of_ne (p.normalLog_ne_newWarnLog suffix).symm (p.newLog_ne_newWarnLog suffix).symm]
    simp [hnil]

/-- The rotation moves only the live files, each onto its stamped name when it is not empty,
that name is free and `p.file` is not nil, and never overwrites or removes anything else.
After it each live file exists exactly when its deferred `ReOpen` created it or it stayed in
place, and the handles are live exactly when both files opened: a failed `os.OpenFile` leaves
a moved live file missing, and every later write to it dropped. -/
theorem rename_moves_only_live_files (s : LogState) (suffix : String) (now : Int)
    (errs : OpenErrors) :
    (∀ f ∈ s.dir.files, f.name ≠ p.normalLog → f.name ≠ p.warnLog →
        f ∈ (p.rename s suffix now errs).dir.files) ∧
      (∀ f ∈ s.dir.files, f.name = p.normalLog → f ∈ (p.rename s suffix now errs).dir.files ∨
        { f with name := p.newLog suffix } ∈ (p.rename s suffix now errs).dir.files) ∧
      (∀ f ∈ s.dir.files, f.name = p.warnLog → f ∈ (p.rename s suffix now errs).dir.files ∨
        { f with name := p.newWarnLog suffix } ∈ (p.rename s suffix now errs).dir.files) ∧
      (((p.rename s suffix now errs).dir.stat p.normalLog).isSome ↔
        errs.normalLog = none ∨ s.keepsInPlace p.normalLog (p.newLog suffix)) ∧
      (((p.rename s suffix now errs).dir.stat p.warnLog).isSome ↔
        errs.normalLog = none ∧ errs.warnLog = none ∨ s.keepsInPlace p.warnLog (p.newWarnLog suffix)) ∧
      ((p.rename s suffix now errs).file = .live ↔ errs.normalLog = none ∧ errs.warnLog = none) ∧
      ((p.rename s suffix now errs).errFile = .live ↔ errs.normalLog = none ∧ errs.warnLog = none) := by
  refine ⟨fun f hf hnormal hwarn => ?_, fun f hf hnormal => ?_, fun f hf hwarn => ?_,
    p.stat_rename_normalLog, p.stat_rename_warnLog, p.reOpen_file_live, p.reOpen_errFile_live⟩ <;>
    unfold rename <;> split_ifs
  · exact p.mem_reOpen_of_mem hf
  · exact p.mem_reOpen_of_mem (mem_removeFile_of_ne _ (mem_removeFile_of_ne _ hf hnormal) hwarn)
  · exact .inl (p.mem_reOpen_of_mem hf)
  · -- the second `removeFile` does not touch the normal log, wherever it went
    rcases removeFile_of_eq (p.newLog suffix) hf hnormal with h | h
    · exact .inl (p.mem_reOpen_of_mem (mem_removeFile_of_ne _ h (hnormal ▸ p.normalLog_ne_warnLog)))
    · exact .inr (p.mem_reOpen_of_mem (mem_removeFile_of_ne _ h (p.newLog_ne_warnLog suffix)))
  · exact .inl (p.mem_reOpen_of_mem hf)
  · have hkept := mem_removeFile_of_ne (p.newLog suffix) hf (hwarn ▸ (p.normalLog_ne_warnLog).symm)
    rcases removeFile_of_eq (p.newWarnLog suffix) hkept hwarn with h | h
    · exact .inl (p.mem_reOpen_of_mem h)
    · exact .inr (p.mem_reOpen_of_mem h)

/-- The hour's log moves to its stamped name and the empty warning log stays; when the normal
log then fails to open, it is left missing and both handles closed. -/
example :
    ((⟨"logs", "gaea"⟩ : XFileLog).rename ⟨⟨[⟨"gaea.log", 5, 10⟩, ⟨"gaea.log.wf", 4, 0⟩], by decide⟩,
      .live, .live⟩ "2024010100" 6 ⟨some "permission denied", none⟩).dir.files.map LogFile.name =
      ["gaea.log-2024010100.log", "gaea.log.wf"] := by
  decide

/-- A rotation leaves a handle live only on a file it opened. -/
theorem rename_live (s : LogState) (suffix : String) (now : Int) (errs : OpenErrors) :
    p.Live (p.rename s suffix now errs) :=
  p.reOpen_live _ now errs

end XFileLog

/-! ### Along a run of `spliter` -/

/-- `clean` never removes a live file. -/
theorem stat_clean_of_live {d : LogDir} {path filename name : String} {deadline logKeepCounts : Int}
    (hlive : canSkipClean name filename = true) (h : (d.stat name).isSome) :
    ((clean d path filename deadline logKeepCounts).stat name).isSome := by
  obtain ⟨f, hfd, rfl⟩ := LogDir.stat_isSome_iff.mp h
  exact LogDir.stat_isSome_iff.mpr ⟨f, (mem_clean_iff d path filename deadline logKeepCounts f).mpr
    ⟨hfd, fun hc => by simp [counted, hlive] at hc⟩, rfl⟩

/-- A write counts no new file. -/
theorem countOfType_append (d : LogDir) (path filename name t : String) (n : Nat) (now : Int) :
    countOfType (d.append name n now) path filename t = countOfType d path filename t := by
  simp only [countOfType, LogDir.append, List.countP_map]
  congr 1
  funext f
  simp only [Function.comp_apply]
  split <;> rfl

/-- Whether an event is a tick of `spliter`. -/
def Event.isTick : Event → Bool
  | .tick _ => true
  | .write .. => false

namespace XFileLog

variable {p : XFileLog} {s : LogState}

theorem Live.clean (h : p.Live s) (deadline logKeepCounts : Int) :
    p.Live { s with dir := clean s.dir p.path p.filename deadline logKeepCounts } :=
  ⟨fun hf => stat_clean_of_live p.canSkipClean_normalLog (h.file hf),
    fun hf => stat_clean_of_live p.canSkipClean_warnLog (h.errFile hf)⟩

/-- A write appends to one live file, or changes nothing. -/
theorem write_eq (toErrFile : Bool) (n : Nat) (now : Int) :
    p.write s toErrFile n now = s ∨
      ∃ name, p.write s toErrFile n now = { s with dir := s.dir.append name n now } := by
  unfold XFileLog.write
  split_ifs <;> first | exact .inl rfl | exact .inr ⟨_, rfl⟩

theorem Live.write (h : p.Live s) (toErrFile : Bool) (n : Nat) (now : Int) :
    p.Live (p.write s toErrFile n now) := by
  rcases write_eq toErrFile n now with hw | ⟨name, hw⟩ <;> rw [hw]
  · exact h
  · exact ⟨fun hf => (LogDir.stat_append_isSome n).trans (h.file hf),
      fun hf => (LogDir.stat_append_isSome n).trans (h.errFile hf)⟩

theorem countOfType_write (toErrFile : Bool) (n : Nat) (now : Int) (t : String) :
    countOfType (p.write s toErrFile n now).dir p.path p.filename t =
      countOfType s.dir p.path p.filename t := by
  rcases write_eq toErrFile n now with hw | ⟨name, hw⟩ <;> rw [hw]
  exact countOfType_append ..

variable (p) (logKeepCounts : Int)

/-- The state a tick leaves: cleaned, or, when the hour changed, cleaned twice and rotated. -/
theorem tick_logs (s : Spliter) (t : Tick) :
    (p.tick logKeepCounts s t).logs =
      if t.hour ≠ s.preHour then
        p.rename { s.logs with dir := (clean (clean s.logs.dir p.path p.filename t.deadline
          logKeepCounts) p.path p.filename t.deadline logKeepCounts) } s.splitTime t.now t.opened
      else { s.logs with dir := clean s.logs.dir p.path p.filename t.deadline logKeepCounts } := by
  by_cases h : t.hour = s.preHour <;> simp only [tick, h, ne_eq, not_true_eq_false, not_false_eq_true, if_true, if_false]

/-- What `spliter` keeps true: a live handle has its file and, once it has ticked, no type
holds more than `logKeepCounts + 1` counted files. -/
structure Bounded (s : LogState) (ticked : Bool) : Prop where
  live : p.Live s
  count : ticked = true → ∀ t, (countOfType s.dir p.path p.filename t : Int) ≤ max logKeepCounts 0 + 1

theorem bounded_init (d : LogDir) (t : Tick) : p.Bounded logKeepCounts (p.init d t).logs false :=
  ⟨p.reOpen_live _ t.now t.opened, nofun⟩

/-- A tick cleans, and rotates after `clean` has brought every type down to
`logKeepCounts`; a write changes no name. -/
theorem Bounded.step {p : XFileLog} {logKeepCounts : Int} {s : Spliter} {ticked : Bool}
    (h : p.Bounded logKeepCounts s.logs ticked) :
    ∀ e : Event, p.Bounded logKeepCounts (p.step logKeepCounts s e).logs (ticked || e.isTick)
  | .tick t => by
      rw [XFileLog.step, tick_logs, Event.isTick, Bool.or_true]
      split
      · -- the hour changed: clean twice, then rotate
        refine ⟨p.rename_live .., fun _ t' => ?_⟩
        have hclean := countOfType_clean_le (clean s.logs.dir p.path p.filename t.deadline logKeepCounts)
          p.path p.filename t.deadline logKeepCounts t'
        have hrename := p.countOfType_rename_le { s.logs with dir := (clean (clean s.logs.dir p.path
          p.filename t.deadline logKeepCounts) p.path p.filename t.deadline logKeepCounts) }
          s.splitTime t.now t.opened t'
        dsimp only at hrename ⊢
        omega
      · refine ⟨h.live.clean .., fun _ t' => ?_⟩
        have := countOfType_clean_le s.logs.dir p.path p.filename t.deadline logKeepCounts t'
        dsimp only
        omega
  | .write toErrFile n now => by
      rw [XFileLog.step, Event.isTick, Bool.or_false]
      exact ⟨h.live.write .., fun ht t' =>
        (congrArg Nat.cast (countOfType_write toErrFile n now t')).trans_le (h.count ht t')⟩

theorem Bounded.run {p : XFileLog} {logKeepCounts : Int} {s : Spliter} {ticked : Bool}
    (h : p.Bounded logKeepCounts s.logs ticked) : ∀ events : List Event,
      p.Bounded logKeepCounts (p.run logKeepCounts s events).logs (ticked || events.any Event.isTick)
  | [] => by simpa [XFileLog.run] using h
  | e :: events => by
      simpa [XFileLog.run, Bool.or_assoc] using (h.step e).run events

end XFileLog

end Gaea.Log.Xlog
