import GaeaProxy.Server.Executor

/-! # `SET` statements

`handleSet` hands the assignments to `handleSetVariable` one after another and returns
at the first error, so every assignment before the failing one stays applied. A failing
`handleSetVariable` leaves the executor as it found it, except `autocommit = 1`: that
one recycles the transaction's connections and sets the flags before it returns the
error of a failed `SetAutoCommit(1)`.
-/

namespace Gaea.Server

/-- A `SET` assignment: its scope and name, its value as `getVariableExprResult` renders
it (and `getSqlModeExprResult`, for `sql_mode`), and the rendered `COLLATE` value of a
`SET NAMES` that has one. -/
structure VariableAssignment where
  isGlobal : Bool
  name : String
  value : String
  sqlModeValue : String
  extendValue : Option String
  deriving DecidableEq, Repr

/-- What `handleSetVariable` reads outside the repository's files: constants of package
`mysql` and of the server, the namespace's defaults and session-variable whitelist, the
collation tables, the outcome of `SetAutoCommit(1)` on each connection, and the helpers
that set a session variable, each returning the new variables or an error. -/
structure SetEnv where
  keywordDefault : String
  maxAllowedPacket : String
  groupConcatMaxLen : String
  sqlModeStr : String
  sqlSafeUpdates : String
  timeZone : String
  sqlSelectLimit : String
  gaeaGeneralLogVariable : String
  defaultCharset : String
  defaultCollationID : Nat
  allowedSessionVariables : String → Option String
  collationNames : String → Option Nat
  collationNameToCharset : String → Option String
  charsetIds : String → Option Nat
  lessThanMySQLVersion803 : Bool
  setSessionVariable : List (String × String) → String → String →
    Except ExecError (List (String × String))
  setIntSessionVariable : List (String × String) → String → String →
    Except ExecError (List (String × String))
  setStringSessionVariable : List (String × String) → String → String →
    Except ExecError (List (String × String))
  getOnOffVariable : String → Except ExecError String
  setGeneralLogVariable : String → Option ExecError
  setAutoCommit : Nat → Option String

/-- `SET NAMES charset [COLLATE collation]`: the charset and collation id to set, or
the error of an unknown collation, or of one of another charset. -/
def setNames (env : SetEnv) (v : VariableAssignment) : Except ExecError (String × Nat) :=
  let charset := if v.value = env.keywordDefault then env.defaultCharset else v.value
  let unknown : ExecError := .defaultError .errUnknownCharacterSet [charset]
  match v.extendValue with
  | some collationName =>
      match env.collationNames collationName, env.collationNameToCharset collationName with
      | some cid, some toCharset => if toCharset ≠ charset then .error unknown else .ok (charset, cid)
      | _, _ => .error unknown
  | none =>
      match env.charsetIds charset with
      | some cid => .ok (charset, cid)
      | none => .error unknown

/-- Go's `strings.ToLower`, on ASCII letters. -/
def toLower (s : String) : String :=
  ⟨s.data.map Char.toLower⟩

namespace SessionExecutor

/-- What a session-variable helper returns, on the executor. -/
def setVariables (se : SessionExecutor) :
    Except ExecError (List (String × String)) → SessionExecutor × Option ExecError
  | .ok vars => ({ se with sessionVariables := vars }, none)
  | .error e => (se, some e)

/-- `handleSetVariable` on the lowered name `name`. -/
def handleSetVariableNamed (env : SetEnv) (se : SessionExecutor) (v : VariableAssignment)
    (name : String) : SessionExecutor × Option ExecError :=
  let wrongValue : ExecError := .defaultError .errWrongValueForVar [name, v.value]
  if name = "character_set_results" ∨ name = "character_set_client" ∨
      name = "character_set_connection" then
    if v.value = "null" then (se, none)
    else if v.value = env.keywordDefault then
      ({ se with charset := env.defaultCharset, collation := env.defaultCollationID }, none)
    else se.setVariables (env.setSessionVariable se.sessionVariables name v.value)
  else if name = "group_concat_max_len" then
    se.setVariables (env.setIntSessionVariable se.sessionVariables env.groupConcatMaxLen v.value)
  else if name = "autocommit" then
    if v.value = env.keywordDefault ∨ v.value = "on" ∨ v.value = "1" then
      se.handleSetAutoCommit env.setAutoCommit true
    else if v.value = "off" ∨ v.value = "0" then se.handleSetAutoCommit env.setAutoCommit false
    else (se, some wrongValue)
  else if name = "setnames" then
    match setNames env v with
    | .ok (charset, collation) => ({ se with charset := charset, collation := collation }, none)
    | .error e => (se, some e)
  else if name = "sql_mode" then
    se.setVariables (env.setStringSessionVariable se.sessionVariables env.sqlModeStr v.sqlModeValue)
  else if name = "sql_safe_updates" then
    match env.getOnOffVariable v.value with
    | .ok onOff =>
        se.setVariables (env.setIntSessionVariable se.sessionVariables env.sqlSafeUpdates onOff)
    | .error _ => (se, some wrongValue)
  else if name = "time_zone" then
    se.setVariables (env.setStringSessionVariable se.sessionVariables env.timeZone v.value)
  else if name = "max_allowed_packet" then
    (se, some (.defaultError .errVariableIsReadonly ["SESSION", env.maxAllowedPacket, "GLOBAL"]))
  else if name = "wait_timeout" ∨ name = "interactive_timeout" ∨ name = "net_write_timeout" ∨
      name = "net_read_timeout" then (se, none)
  else if name = "sql_select_limit" then
    se.setVariables (env.setIntSessionVariable se.sessionVariables env.sqlSelectLimit v.value)
  else if name = "transaction" then (se, some (.text "does not support set transaction in gaea"))
  else if name = "tx_read_only" ∨ name = "transaction_read_only" then
    match env.getOnOffVariable v.value with
    | .ok onOff =>
        if name = "tx_read_only" ∧ env.lessThanMySQLVersion803 = false then
          se.setVariables (env.setIntSessionVariable se.sessionVariables "transaction_read_only" onOff)
        else se.setVariables (env.setIntSessionVariable se.sessionVariables name onOff)
    | .error _ => (se, some wrongValue)
  else if name = env.gaeaGeneralLogVariable then
    match env.getOnOffVariable v.value with
    | .ok onOff => (se, env.setGeneralLogVariable onOff)
    | .error _ => (se, some wrongValue)
  else
    -- a whitelisted variable is set by its type; any other is ignored
    match env.allowedSessionVariables name with
    | some "int" => se.setVariables (env.setIntSessionVariable se.sessionVariables name v.value)
    | some "string" => se.setVariables (env.setStringSessionVariable se.sessionVariables name v.value)
    | some "bool" =>
        match env.getOnOffVariable v.value with
        | .ok onOff => se.setVariables (env.setIntSessionVariable se.sessionVariables name onOff)
        | .error _ => (se, some wrongValue)
    | _ => (se, none)

def handleSetVariable (env : SetEnv) (se : SessionExecutor) (v : VariableAssignment) :
    SessionExecutor × Option ExecError :=
  if v.isGlobal then (se, some (.text "does not support set variable in global scope"))
  else se.handleSetVariableNamed env v (toLower v.name)

/-- `handleSet`: the assignments in order, up to the first error. -/
def handleSet (env : SetEnv) (se : SessionExecutor) : List VariableAssignment →
    SessionExecutor × Option ExecError
  | [] => (se, none)
  | v :: vs =>
      match se.handleSetVariable env v with
      | (se', some e) => (se', some e)
      | (se', none) => se'.handleSet env vs

end SessionExecutor

namespace SessionExecutor

variable {env : SetEnv} {se : SessionExecutor} {name : String}

/-- What a failing assignment leaves: the executor as it was, or, for `autocommit`, the
executor `handleSetAutoCommit(true)` left. -/
def FailsAsBefore (env : SetEnv) (se : SessionExecutor) (name : String)
    (r : SessionExecutor × Option ExecError) : Prop :=
  r.2.isSome → r.1 = se ∨ name = "autocommit" ∧ r.1 = (se.handleSetAutoCommit env.setAutoCommit true).1

theorem failsAsBefore_self (err : Option ExecError) : FailsAsBefore env se name (se, err) :=
  fun _ => .inl rfl

theorem failsAsBefore_none (se' : SessionExecutor) : FailsAsBefore env se name (se', none) :=
  fun h => nomatch h

theorem failsAsBefore_setVariables (r : Except ExecError (List (String × String))) :
    FailsAsBefore env se name (se.setVariables r) := by
  cases r
  · exact failsAsBefore_self _
  · exact failsAsBefore_none _

/-- A failing assignment leaves the executor as it found it, except `autocommit = 1`,
which fails after `handleSetAutoCommit(true)` has run. -/
theorem handleSetVariableNamed_failsAsBefore (v : VariableAssignment) :
    FailsAsBefore env se name (se.handleSetVariableNamed env v name) := by
  rw [handleSetVariableNamed]
  repeat' (apply iteInduction (motive := FailsAsBefore env se name) <;> intro)
  all_goals repeat' split
  all_goals first
    | exact failsAsBefore_self _
    | exact failsAsBefore_none _
    | exact failsAsBefore_setVariables _
    | exact fun _ => .inr ⟨‹_›, rfl⟩

theorem handleSetVariable_failsAsBefore (v : VariableAssignment) :
    FailsAsBefore env se (toLower v.name) (se.handleSetVariable env v) := by
  unfold handleSetVariable
  split
  · exact failsAsBefore_self _
  · exact handleSetVariableNamed_failsAsBefore v

/-- When `handleSet` returns an error, it is the error of the first assignment that
failed: the assignments before it stay applied, the ones after it are never run, and
the failing one changed nothing, unless it set `autocommit` to 1 and its
`SetAutoCommit(1)` failed after `handleSetAutoCommit(true)` had run. -/
theorem handleSet_error_keeps_earlier_assignments {vs : List VariableAssignment}
    {se' : SessionExecutor} {err : ExecError} (h : se.handleSet env vs = (se', some err)) :
    ∃ pre v post se₁, vs = pre ++ v :: post ∧ se.handleSet env pre = (se₁, none) ∧
      se₁.handleSetVariable env v = (se', some err) ∧
      (se' = se₁ ∨ toLower v.name = "autocommit" ∧
        se' = (se₁.handleSetAutoCommit env.setAutoCommit true).1) := by
  induction vs generalizing se with
  | nil => cases h
  | cons v vs ih =>
      rw [handleSet] at h
      rcases hv : se.handleSetVariable env v with ⟨se₁, _ | e⟩ <;> rw [hv] at h
      · -- `v` succeeded: the failing assignment is a later one
        obtain ⟨pre, v', post, se₂, rfl, hpre, hv', hframe⟩ := ih h
        exact ⟨v :: pre, v', post, se₂, rfl, by rw [handleSet, hv]; exact hpre, hv', hframe⟩
      · cases h
        have hframe := @handleSetVariable_failsAsBefore env se v
        rw [hv] at hframe
        exact ⟨[], v, vs, se, rfl, rfl, hv, hframe rfl⟩

end SessionExecutor

theorem handleSet_error_after_autocommit_off :
    ∃ (env : SetEnv) (se se' : SessionExecutor) (err : ExecError),
      env = ⟨"default", "max_allowed_packet", "group_concat_max_len", "sql_mode",
        "sql_safe_updates", "time_zone", "sql_select_limit", "gaea_general_log", "utf8", 33,
        fun _ => none, fun _ => none, fun _ => none, fun _ => none, true,
        fun vars _ _ => .ok vars, fun vars _ _ => .ok vars, fun vars _ _ => .ok vars,
        fun _ => .ok "1", fun _ => none, fun _ => none⟩ ∧
      se = ⟨serverStatusAutocommit, "utf8", 33, [], [], [], fun _ => none, 0, []⟩ ∧
      se.handleSet env [⟨false, "autocommit", "0", "0", none⟩,
        ⟨false, "max_allowed_packet", "1", "1", none⟩] = (se', some err) ∧
      ∃ pre v post se₁, [⟨false, "autocommit", "0", "0", none⟩,
          ⟨false, "max_allowed_packet", "1", "1", none⟩] = pre ++ v :: post ∧
        se.handleSet env pre = (se₁, none) ∧ se₁.handleSetVariable env v = (se', some err) ∧
        (se' = se₁ ∨ toLower v.name = "autocommit" ∧
          se' = (se₁.handleSetAutoCommit env.setAutoCommit true).1) :=
  ⟨_, _, _, _, rfl, rfl, rfl, SessionExecutor.handleSet_error_keeps_earlier_assignments rfl⟩

/-- `SET autocommit = 0, max_allowed_packet = 1` on a session in autocommit mode: the
second assignment fails, and autocommit stays off. -/
theorem set_autocommit_off_then_readonly_variable_keeps_autocommit_off :
    ∃ (env : SetEnv) (se : SessionExecutor),
      env = ⟨"default", "max_allowed_packet", "group_concat_max_len", "sql_mode",
        "sql_safe_updates", "time_zone", "sql_select_limit", "gaea_general_log", "utf8", 33,
        fun _ => none, fun _ => none, fun _ => none, fun _ => none, true,
        fun vars _ _ => .ok vars, fun vars _ _ => .ok vars, fun vars _ _ => .ok vars,
        fun _ => .ok "1", fun _ => none, fun _ => none⟩ ∧
      se = ⟨serverStatusAutocommit, "utf8", 33, [], [], [], fun _ => none, 0, []⟩ ∧
      (se.handleSet env [⟨false, "autocommit", "0", "0", none⟩,
        ⟨false, "max_allowed_packet", "1", "1", none⟩]).2 =
        some (.defaultError .errVariableIsReadonly ["SESSION", "max_allowed_packet", "GLOBAL"]) ∧
      (se.handleSet env [⟨false, "autocommit", "0", "0", none⟩,
        ⟨false, "max_allowed_packet", "1", "1", none⟩]).1.status ≠ se.status :=
  ⟨_, _, rfl, rfl, by decide, by decide⟩

end Gaea.Server
