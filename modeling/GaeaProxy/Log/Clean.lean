import Mathlib

/-! # Cleaning the log directory

`clean` globs `<path>/<filename>.log*` and skips the live files. Its first loop walks the
matches from last to first and removes a match once its type (the path without digits) has
passed `logKeepCounts`; its second removes what is older than the deadline or empty. So a match
survives exactly when it is live, or among the `logKeepCounts` newest of its type, recent and
not empty (`mem_clean_iff`). The directory is a list of entries with what `os.Stat` reports,
globbed in `sort.Strings` order; the deadline is a parameter.
-/

namespace Gaea.Log.Xlog

/-- A directory entry, with the modification time and size `os.Stat` reports. -/
structure LogFile where
  name : String
  modTime : Int
  size : Nat
  deriving DecidableEq, Repr

/-- A directory: its entries, one per name. -/
structure LogDir where
  files : List LogFile
  nodup : (files.map LogFile.name).Nodup

namespace LogDir

/-- `os.Stat(name)`: the entry called `name`, if there is one. -/
def stat (d : LogDir) (name : String) : Option LogFile :=
  d.files.find? (·.name = name)

/-- `os.Remove(name)`; removing a missing name fails and changes nothing. -/
def remove (d : LogDir) (name : String) : LogDir :=
  ⟨d.files.filter (·.name ≠ name), d.nodup.sublist ((List.filter_sublist _).map _)⟩

variable {d : LogDir} {name : String} {f g : LogFile}

@[simp] theorem mem_remove : f ∈ (d.remove name).files ↔ f ∈ d.files ∧ f.name ≠ name := by
  simp [remove]

/-- Two entries with one name are one entry. -/
theorem eq_of_name_eq (hf : f ∈ d.files) (hg : g ∈ d.files) (h : f.name = g.name) : f = g :=
  List.inj_on_of_nodup_map d.nodup hf hg h

theorem stat_eq_none_iff : d.stat name = none ↔ ∀ f ∈ d.files, f.name ≠ name := by
  simp [stat, List.find?_eq_none]

theorem stat_eq_some_iff : d.stat name = some f ↔ f ∈ d.files ∧ f.name = name := by
  constructor
  · intro h
    exact ⟨List.mem_of_find?_eq_some h, by simpa using List.find?_some h⟩
  · rintro ⟨hf, rfl⟩
    cases hstat : d.stat f.name with
    | none => exact absurd rfl (stat_eq_none_iff.mp hstat f hf)
    | some g =>
        have hname : g.name = f.name := by simpa using List.find?_some hstat
        rw [eq_of_name_eq (List.mem_of_find?_eq_some hstat) hf hname]

end LogDir

/-! ### `filepath.Glob` and the two loops of `clean` -/

/-- The order `sort.Strings` puts names in. -/
def NameLE (a b : LogFile) : Prop := a.name.data ≤ b.name.data

instance : DecidableRel NameLE := fun a b => inferInstanceAs (Decidable (a.name.data ≤ b.name.data))

instance : IsTotal LogFile NameLE := ⟨fun a b => le_total a.name.data b.name.data⟩

instance : IsTrans LogFile NameLE := ⟨fun _ _ _ => le_trans⟩

/-- `filepath.Match("<filename>.log*", name)`, for a `filename` with no pattern characters. -/
def matchesLog (filename name : String) : Bool :=
  (filename ++ ".log").data.isPrefixOf name.data

/-- `filepath.Glob("<path>/<filename>.log*")`: the matching entries in name order. -/
def glob (d : LogDir) (filename : String) : List LogFile :=
  (d.files.filter fun f => matchesLog filename f.name).insertionSort NameLE

/-- `canSkipClean(file, filePrefix)`: the live files of the logger and of its SQL log. -/
def canSkipClean (file filePrefix : String) : Bool :=
  [filePrefix ++ ".log", filePrefix ++ "_sql.log", filePrefix ++ ".log.wf",
    filePrefix ++ "_sql.log.wf"].contains file

/-- `regexp.MustCompile("[0-9]+").ReplaceAllString(file, "")`. -/
def fileType (file : String) : String :=
  ⟨file.data.filter fun c => !c.isDigit⟩

/-- The path `filepath.Glob` returns for the entry `name` of the directory `path`. -/
def filePath (path name : String) : String :=
  path ++ "/" ++ name

/-- One pass of `clean`'s first loop, over the match `file`, on `fileTypeMap` and the
directory. -/
def countStep (path filename : String) (logKeepCounts : Int) (file : LogFile)
    (acc : (String → Int) × LogDir) : (String → Int) × LogDir :=
  if canSkipClean file.name filename then acc
  else
    let fileType := fileType (filePath path file.name)
    let count := acc.1 fileType + 1
    if count > logKeepCounts then (Function.update acc.1 fileType (count - 1), acc.2.remove file.name)
    else (Function.update acc.1 fileType count, acc.2)

/-- One pass of `clean`'s second loop, over the match `file`: `os.Stat` reads the directory
as the passes before left it. -/
def ageStep (filename : String) (deadline : Int) (d : LogDir) (file : LogFile) : LogDir :=
  if canSkipClean file.name filename then d
  else
    match d.stat file.name with
    | some fileInfo =>
        if fileInfo.modTime < deadline then d.remove file.name
        else if fileInfo.size = 0 then d.remove file.name
        else d
    | none => d

/-- `clean(keepDays, logKeepCounts)`, at the `deadline` the clock gives for `keepDays`. The
first loop runs from the last match to the first: a right fold. -/
def clean (d : LogDir) (path filename : String) (deadline logKeepCounts : Int) : LogDir :=
  let files := glob d filename
  files.foldl (ageStep filename deadline)
    (files.foldr (countStep path filename logKeepCounts) (fun _ => 0, d)).2

/-! ### What `clean` keeps -/

/-- A match `clean` counts against `logKeepCounts`: one that is not live. -/
def counted (filename : String) (f : LogFile) : Bool :=
  matchesLog filename f.name && !canSkipClean f.name filename

/-- Whether `g` is a file of `f`'s type whose name sorts after `f`'s. -/
def newerOfType (path : String) (f g : LogFile) : Bool :=
  fileType (filePath path g.name) == fileType (filePath path f.name) &&
    decide (f.name.data < g.name.data)

theorem mem_glob {d : LogDir} {filename : String} {f : LogFile} :
    f ∈ glob d filename ↔ f ∈ d.files ∧ matchesLog filename f.name = true := by
  simp [glob, (List.perm_insertionSort NameLE _).mem_iff]

/-- The matches come in strictly increasing name order. -/
theorem glob_pairwise (d : LogDir) (filename : String) :
    (glob d filename).Pairwise fun a b => a.name.data < b.name.data := by
  have hperm := List.perm_insertionSort NameLE (d.files.filter fun f => matchesLog filename f.name)
  have hnodup : ((glob d filename).map LogFile.name).Nodup :=
    (hperm.map _).nodup_iff.mpr (d.nodup.sublist ((List.filter_sublist _).map _))
  refine (List.sorted_insertionSort NameLE _).imp₂ (fun a b hle hne => ?_)
    (List.pairwise_map.mp hnodup)
  exact lt_of_le_of_ne hle fun h => hne (String.ext h)

section Loops

variable (path filename : String) (deadline logKeepCounts : Int)

/-- The counts of the first loop over any `files`: each type's number of counted files,
capped at `logKeepCounts`. -/
theorem foldr_countStep_fst (d : LogDir) (files : List LogFile) (t : String) :
    (files.foldr (countStep path filename logKeepCounts) (fun _ => 0, d)).1 t =
      min ((files.countP fun g => !canSkipClean g.name filename &&
        fileType (filePath path g.name) == t : Nat) : Int) (max logKeepCounts 0) := by
  induction files generalizing t with
  | nil => simp
  | cons file files ih =>
      rw [List.foldr_cons, List.countP_cons]
      have hT := ih (fileType (filePath path file.name))
      generalize files.foldr (countStep path filename logKeepCounts) (fun _ => 0, d) = acc at ih hT
      unfold countStep
      by_cases hskip : canSkipClean file.name filename
      · simp only [hskip, if_true, ih, Bool.not_true, Bool.false_and, Bool.false_eq_true, if_false,
          add_zero]
      · simp only [hskip, Bool.false_eq_true, if_false, Bool.not_false, Bool.true_and]
        by_cases ht : fileType (filePath path file.name) = t
        · subst ht
          split <;> simp only [Function.update_same, beq_self_eq_true, if_true, Nat.cast_add,
            Nat.cast_one] <;> omega
        · split <;> simp only [Function.update_noteq (Ne.symm ht), ih, beq_iff_eq, ht, if_false,
            add_zero]

/-- The first loop over the matches `files`, in increasing name order, from the directory
`d`: a file is removed exactly when it is counted and at least `logKeepCounts` counted files
of its type follow it. -/
theorem mem_foldr_countStep (d : LogDir) : ∀ files : List LogFile,
    files.Pairwise (fun a b => a.name.data < b.name.data) → ∀ f,
      f ∈ (files.foldr (countStep path filename logKeepCounts) (fun _ => 0, d)).2.files ↔
        f ∈ d.files ∧ ∀ g ∈ files, f.name = g.name → canSkipClean g.name filename = false →
          (files.countP fun h => !canSkipClean h.name filename && newerOfType path g h) <
            logKeepCounts
  | [], _, _ => by simp
  | file :: files, hsorted, f => by
      obtain ⟨hlt, hsorted⟩ := List.pairwise_cons.mp hsorted
      have hmem := mem_foldr_countStep d files hsorted f
      -- `file` sorts before every file of `files`, and is not newer than itself
      have hcons : ∀ g ∈ file :: files,
          ((file :: files).countP fun h => !canSkipClean h.name filename && newerOfType path g h) =
            files.countP fun h => !canSkipClean h.name filename && newerOfType path g h := by
        intro g hg
        rcases List.mem_cons.mp hg with rfl | hg
        · simp [List.countP_cons, newerOfType]
        · simp [List.countP_cons, newerOfType, (hlt g hg).asymm]
      -- the files of `file`'s type that follow it are all the counted ones of its type
      have hhead : (files.countP fun h => !canSkipClean h.name filename && newerOfType path file h) =
          files.countP fun h => !canSkipClean h.name filename &&
            fileType (filePath path h.name) == fileType (filePath path file.name) :=
        List.countP_congr fun h hh => by simp [newerOfType, hlt h hh]
      have hT := foldr_countStep_fst path filename logKeepCounts d files
        (fileType (filePath path file.name))
      rw [List.foldr_cons]
      generalize files.foldr (countStep path filename logKeepCounts) (fun _ => 0, d) = acc
        at hmem hT
      unfold countStep
      by_cases hskip : canSkipClean file.name filename
      · simp only [hskip, if_true]
        simp +contextual [hmem, hcons, hskip]
      · simp only [hskip, Bool.false_eq_true, if_false]
        generalize files.countP (fun h => !canSkipClean h.name filename &&
          fileType (filePath path h.name) == fileType (filePath path file.name)) = n at hT hhead
        split <;> rename_i hcount
        · -- removed: `logKeepCounts` counted files of its type follow it
          have hle : ¬ (n : Int) < logKeepCounts := by omega
          simp +contextual [hmem, hcons, hskip, hhead, hle]
          exact and_right_comm.trans and_assoc
        · have hlt' : (n : Int) < logKeepCounts := by omega
          simp +contextual [hmem, hcons, hskip, hhead, hlt']

/-- One pass of the second loop removes the entry named like a counted `file` exactly when it
is older than the deadline or empty. -/
theorem mem_ageStep (d : LogDir) (file f : LogFile) :
    f ∈ (ageStep filename deadline d file).files ↔
      f ∈ d.files ∧ (f.name = file.name → canSkipClean file.name filename = false →
        deadline ≤ f.modTime ∧ f.size ≠ 0) := by
  unfold ageStep
  by_cases hskip : canSkipClean file.name filename
  · simp [hskip]
  · cases hstat : d.stat file.name with
    | none =>
        simpa [hskip] using fun hf h => absurd h (LogDir.stat_eq_none_iff.mp hstat f hf)
    | some info =>
        obtain ⟨hinfo, hname⟩ := LogDir.stat_eq_some_iff.mp hstat
        simp only [hskip, Bool.false_eq_true, if_false]
        by_cases hf : f ∈ d.files ∧ f.name = file.name
        · -- `f` is the entry `os.Stat` found
          obtain rfl := LogDir.eq_of_name_eq hf.1 hinfo (hf.2.trans hname.symm)
          split_ifs with hold hempty
          · simp [hf, hold]
          · simp [hf, hempty]
          · simp [hf.1, not_lt.mp hold, hempty]
        · -- any other entry is left as it is
          by_cases hn : f.name = file.name
          · have hf' : f ∉ d.files := fun h => hf ⟨h, hn⟩
            split_ifs <;> simp [hf']
          · split_ifs <;> simp [hn]

/-- The second loop over any `files`, from any directory: an entry survives exactly when it is
neither older than the deadline nor empty, or no counted file of `files` has its name. -/
theorem mem_foldl_ageStep : ∀ (files : List LogFile) (d : LogDir) (f : LogFile),
    f ∈ (files.foldl (ageStep filename deadline) d).files ↔
      f ∈ d.files ∧ ∀ g ∈ files, f.name = g.name → canSkipClean g.name filename = false →
        deadline ≤ f.modTime ∧ f.size ≠ 0
  | [], _, _ => by simp
  | file :: files, d, f => by
      simp [mem_foldl_ageStep files, mem_ageStep, and_assoc]

end Loops

/-- A match survives `clean` exactly when it is live, or when fewer than `logKeepCounts`
counted files of its type sort after it, it was modified at or after the deadline and it is
not empty. Every other entry is left as it is. -/
theorem mem_clean_iff (d : LogDir) (path filename : String) (deadline logKeepCounts : Int)
    (f : LogFile) :
    f ∈ (clean d path filename deadline logKeepCounts).files ↔
      f ∈ d.files ∧ (counted filename f = true →
        (d.files.countP fun g => counted filename g && newerOfType path f g) < logKeepCounts ∧
          deadline ≤ f.modTime ∧ f.size ≠ 0) := by
  -- the first loop counts, among the matches, what the statement counts among the entries
  have hcount : ((glob d filename).countP fun h => !canSkipClean h.name filename &&
      newerOfType path f h) = d.files.countP fun g => counted filename g && newerOfType path f g := by
    rw [glob, (List.perm_insertionSort NameLE _).countP_eq, List.countP_filter]
    exact List.countP_congr fun g _ => by simp [counted, Bool.and_comm, Bool.and_left_comm, and_assoc]
  have hcounted : counted filename f = true ↔
      matchesLog filename f.name = true ∧ canSkipClean f.name filename = false := by
    simp [counted]
  unfold clean
  rw [mem_foldl_ageStep, mem_foldr_countStep path filename logKeepCounts d _ (glob_pairwise d filename)]
  constructor
  · rintro ⟨⟨hf, hkeep⟩, hage⟩
    refine ⟨hf, fun h => ?_⟩
    obtain ⟨hmatch, hskip⟩ := hcounted.mp h
    have hglob : f ∈ glob d filename := mem_glob.mpr ⟨hf, hmatch⟩
    exact ⟨hcount ▸ hkeep f hglob rfl hskip, hage f hglob rfl hskip⟩
  · rintro ⟨hf, hkeep⟩
    -- the only match named like `f` is `f`
    have heq : ∀ g ∈ glob d filename, f.name = g.name → g = f := fun g hg h =>
      LogDir.eq_of_name_eq (mem_glob.mp hg).1 hf h.symm
    refine ⟨⟨hf, fun g hg hname hskip => ?_⟩, fun g hg hname hskip => ?_⟩ <;>
      obtain rfl := heq g hg hname <;>
      have hkeep := hkeep (hcounted.mpr ⟨(mem_glob.mp hg).2, hskip⟩)
    · exact hcount ▸ hkeep.1
    · exact hkeep.2


/-- The counted matches of the type `t` in `d`. -/
def countOfType (d : LogDir) (path filename t : String) : Nat :=
  d.files.countP fun g => counted filename g && fileType (filePath path g.name) == t

/-- After `clean`, no type holds more than `logKeepCounts` counted matches: the first of them
in name order has all the others after it. -/
theorem countOfType_clean_le (d : LogDir) (path filename : String) (deadline logKeepCounts : Int)
    (t : String) :
    (countOfType (clean d path filename deadline logKeepCounts) path filename t : Int) ≤
      max logKeepCounts 0 := by
  set d' := clean d path filename deadline logKeepCounts
  let p : LogFile → Bool := fun g => !canSkipClean g.name filename && fileType (filePath path g.name) == t
  -- the counted matches of type `t` left, in name order
  have hperm : ((glob d' filename).filter p).Perm
      (d'.files.filter fun g => counted filename g && fileType (filePath path g.name) == t) := by
    refine ((List.perm_insertionSort NameLE _).filter p).trans (List.Perm.of_eq ?_)
    rw [List.filter_filter]
    exact List.filter_congr fun g _ => by
      simp only [p, counted]
      cases matchesLog filename g.name <;> simp
  have hsorted := (glob_pairwise d' filename).filter p
  rw [countOfType, List.countP_eq_length_filter, ← hperm.length_eq]
  generalize (glob d' filename).filter p = S at hperm hsorted
  cases S with
  | nil => simp
  | cons m rest =>
      obtain ⟨hm, hmcounted⟩ := List.mem_filter.mp (hperm.subset (List.mem_cons_self m rest))
      simp only [Bool.and_eq_true, beq_iff_eq] at hmcounted
      obtain ⟨hmd, hkeep⟩ := (mem_clean_iff d path filename deadline logKeepCounts m).mp hm
      -- the rest are counted entries of `d` of `m`'s type that sort after it
      have hrest : rest.length ≤ d.files.countP fun g => counted filename g && newerOfType path m g := by
        rw [List.countP_eq_length_filter]
        have hnodup : rest.Nodup :=
          (List.pairwise_cons.mp hsorted).2.imp fun {a b} h (heq : a = b) => lt_irrefl _ (heq ▸ h)
        refine (hnodup.subperm fun g hg => ?_).length_le
        obtain ⟨hg', hgcounted⟩ := List.mem_filter.mp (hperm.subset (List.mem_cons_of_mem m hg))
        simp only [Bool.and_eq_true, beq_iff_eq] at hgcounted
        refine List.mem_filter.mpr ⟨((mem_clean_iff d path filename deadline logKeepCounts g).mp hg').1, ?_⟩
        simp [hgcounted, hmcounted, newerOfType, List.rel_of_pairwise_cons hsorted hg]
      have := (hkeep hmcounted.1).1
      simp only [List.length_cons, Nat.cast_add, Nat.cast_one]
      omega

/-- Three hourly files, the newest empty, kept two at a time: the oldest goes for the count
and the newest for its size; the live file stays. -/
example :
    (clean ⟨[⟨"gaea.log", 5, 10⟩, ⟨"gaea.log-2024010100.log", 1, 10⟩,
        ⟨"gaea.log-2024010101.log", 2, 10⟩, ⟨"gaea.log-2024010102.log", 3, 0⟩], by decide⟩
      "logs" "gaea" 0 2).files.map LogFile.name = ["gaea.log", "gaea.log-2024010101.log"] := by
  decide

end Gaea.Log.Xlog
