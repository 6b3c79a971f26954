import GaeaProxy.Strings

/-! # MyCat hints

A trailing comment may carry a MyCat hint: `mycatHint`, `sql=` and the SQL to plan from.
`getMyCatHintSQL` splits at `mycatHint + "sql="` and trims the closing `*/` and the spaces, so a
hint gives its SQL back, and `checkMyCatHintPlan` plans from it, exactly when the SQL holds no
cut marker, has no space at either end and does not end in `*` or `/` (`hint_sql_round_trip`).
`mycatHint`, the comment extraction and `getPlan` are not in the repository's files: they are
arguments.
-/

namespace Gaea.Server

open Gaea.Strings

/-- `getMyCatHintSQL(hints)`, the constant `mycatHint` given. -/
def getMyCatHintSQL (mycatHint hints : String) : String :=
  match split hints (mycatHint ++ "sql=") with
  | _ :: piece :: _ => trimSpace (Strings.trimRight piece "*/")
  | _ => ""

/-- The errors of `checkMyCatHintPlan`: a hint with no SQL (`get nil hintSQL.comments:...`, which
prints the comments), and a hint SQL that `getPlan` rejects (`get MyCat hintPlan error`). -/
inductive HintPlanError where
  | nilHintSQL
  | hintPlan
  deriving DecidableEq, Repr

/-- `checkMyCatHintPlan` for the trailing comment `trailing`; `getPlan` is
`se.getPlan(reqCtx, se.GetNamespace(), db, ·, false)`. -/
def checkMyCatHintPlan {Plan : Type} (mycatHint trailing : String)
    (getPlan : String → Except String Plan) : Except HintPlanError (Option Plan) :=
  if !hasPrefix (trimSpace trailing) mycatHint then .ok none
  else if getMyCatHintSQL mycatHint trailing = "" then .error .nilHintSQL
  else
    match getPlan (getMyCatHintSQL mycatHint trailing) with
    | .ok hintPlan => .ok (some hintPlan)
    | .error _ => .error .hintPlan

/-- The closing `*/` goes, and the spaces before it stay, when the text before them does not
end in `*` or `/`. -/
theorem trimRight_close_comment {text spaces : List Char}
    (hlast : ∀ c ∈ text.getLast?, c ≠ '*' ∧ c ≠ '/') (hspaces : ∀ c ∈ spaces, isSpace c) :
    Strings.trimRight ⟨text ++ spaces ++ ['*', '/']⟩ "*/" = ⟨text ++ spaces⟩ := by
  have hhead : ∀ c ∈ (spaces.reverse ++ text.reverse).head?,
      decide (c ∈ "*/".data) = false := by
    rcases List.eq_nil_or_concat spaces with rfl | ⟨init, d, rfl⟩
    · intro c hc
      simpa [List.head?_reverse] using hlast c (by simpa [List.head?_reverse] using hc)
    · intro c hc
      simp only [List.concat_eq_append, List.reverse_append, List.reverse_singleton,
        List.singleton_append, List.cons_append, List.head?_cons, Option.mem_def,
        Option.some.injEq] at hc
      subst hc
      have hspace := hspaces d (by simp)
      have hstar : d ≠ '*' := fun h => absurd (h ▸ hspace) (by decide)
      have hslash : d ≠ '/' := fun h => absurd (h ▸ hspace) (by decide)
      simp [hstar, hslash]
  simp only [Strings.trimRight, List.reverse_append, List.reverse_cons, List.reverse_nil,
    List.nil_append, List.singleton_append, List.cons_append]
  rw [List.dropWhile_cons_of_pos (by decide), List.dropWhile_cons_of_pos (by decide),
    dropWhile_eq_self_of_head hhead]
  simp

/-- The SQL of a hint comes back from `getMyCatHintSQL`, whatever text comes before the hint. -/
theorem getMyCatHintSQL_of_hint {mycatHint pre sql spaces : String}
    (hpre : ¬ (mycatHint ++ "sql=").data <:+: (pre ++ mycatHint ++ "sql=").data.dropLast)
    (hbody : ¬ (mycatHint ++ "sql=").data <:+: (sql ++ spaces ++ "*/").data)
    (hfirst : ∀ c ∈ sql.data.head?, isSpace c = false)
    (hlast : ∀ c ∈ sql.data.getLast?, isSpace c = false ∧ c ≠ '*' ∧ c ≠ '/')
    (hspaces : ∀ c ∈ spaces.data, isSpace c) :
    getMyCatHintSQL mycatHint (pre ++ mycatHint ++ "sql=" ++ sql ++ spaces ++ "*/") = sql := by
  -- the comment splits into the text before the hint and the hint's body
  have hsplit : split (pre ++ mycatHint ++ "sql=" ++ sql ++ spaces ++ "*/") (mycatHint ++ "sql=") =
      [pre, sql ++ spaces ++ "*/"] := by
    have hcomment : pre ++ mycatHint ++ "sql=" ++ sql ++ spaces ++ "*/" =
        ⟨pre.data ++ (mycatHint ++ "sql=").data ++ (sql ++ spaces ++ "*/").data⟩ := by
      apply String.ext
      simp
    rw [hcomment]
    exact @split_append_sep pre.data (mycatHint ++ "sql=").data (sql ++ spaces ++ "*/").data
      (by simp) (by simpa using hpre) hbody
  have hbodyData : (sql ++ spaces ++ "*/").data = sql.data ++ spaces.data ++ ['*', '/'] := by
    simp
  rw [getMyCatHintSQL, hsplit]
  dsimp only
  rw [show sql ++ spaces ++ "*/" = ⟨sql.data ++ spaces.data ++ ['*', '/']⟩ from
      String.ext hbodyData,
    trimRight_close_comment (fun c hc => (hlast c hc).2) hspaces,
    trimSpace_append_spaces hfirst (fun c hc => (hlast c hc).1) hspaces]

/-- A MyCat hint gives its SQL back. Take an SQL that holds no cut marker `mycatHint ++ "sql="`,
neither starts nor ends with a space and does not end in `*` or `/`, and spaces before the
closing `*/`. Then `getMyCatHintSQL` returns the SQL after any text in which the marker does not
end before the hint's own; and, for a `mycatHint` that does not start with a space and an SQL that
is not empty, `checkMyCatHintPlan` on a comment that is exactly the hint plans that SQL. -/
theorem hint_sql_round_trip {Plan : Type} (mycatHint sql spaces : String)
    (getPlan : String → Except String Plan)
    (hbody : ¬ (mycatHint ++ "sql=").data <:+: (sql ++ spaces ++ "*/").data)
    (hfirst : ∀ c ∈ sql.data.head?, isSpace c = false)
    (hlast : ∀ c ∈ sql.data.getLast?, isSpace c = false ∧ c ≠ '*' ∧ c ≠ '/')
    (hspaces : ∀ c ∈ spaces.data, isSpace c) :
    (∀ pre : String, ¬ (mycatHint ++ "sql=").data <:+: (pre ++ mycatHint ++ "sql=").data.dropLast →
        getMyCatHintSQL mycatHint (pre ++ mycatHint ++ "sql=" ++ sql ++ spaces ++ "*/") = sql) ∧
      ((∀ c ∈ mycatHint.data.head?, isSpace c = false) → sql ≠ "" →
        checkMyCatHintPlan mycatHint (mycatHint ++ "sql=" ++ sql ++ spaces ++ "*/") getPlan =
          match getPlan sql with
          | .ok hintPlan => .ok (some hintPlan)
          | .error _ => .error .hintPlan) := by
  refine ⟨fun pre hpre => getMyCatHintSQL_of_hint hpre hbody hfirst hlast hspaces,
    fun hhint hsql => ?_⟩
  -- the marker is longer than what comes before its last character
  have hmarker : ¬ (mycatHint ++ "sql=").data <:+: ("" ++ mycatHint ++ "sql=").data.dropLast :=
    fun hinfix => by simpa using hinfix.length_le
  have hsqlOf := getMyCatHintSQL_of_hint hmarker hbody hfirst hlast hspaces
  -- the comment neither starts nor ends with a space, so it is its own trim
  have hstart : ∀ c ∈ (mycatHint ++ "sql=" ++ sql ++ spaces ++ "*/").data.head?,
      isSpace c = false := by
    rcases hm : mycatHint.data with _ | ⟨c, cs⟩
    · simp [hm]
      decide
    · simpa [hm] using hhint
  have hend : ∀ c ∈ (mycatHint ++ "sql=" ++ sql ++ spaces ++ "*/").data.getLast?,
      isSpace c = false := by
    rw [show (mycatHint ++ "sql=" ++ sql ++ spaces ++ "*/").data =
      (mycatHint ++ "sql=" ++ sql ++ spaces ++ "*").data ++ ['/'] by simp, List.getLast?_concat]
    decide
  have htrim : trimSpace (mycatHint ++ "sql=" ++ sql ++ spaces ++ "*/") =
      mycatHint ++ "sql=" ++ sql ++ spaces ++ "*/" := by
    have hdata := @trimSpace_append_spaces _ [] hstart hend (by simp)
    rw [List.append_nil] at hdata
    exact hdata
  have hprefix : hasPrefix (mycatHint ++ "sql=" ++ sql ++ spaces ++ "*/") mycatHint = true := by
    simp [hasPrefix, List.isPrefixOf_iff_prefix, List.append_assoc]
  simp only [checkMyCatHintPlan, htrim, hprefix, Bool.not_true, Bool.false_eq_true, if_false]
  rw [String.empty_append] at hsqlOf
  rw [hsqlOf, if_neg hsql]

/-- The hint `/* !mycat:sql=select 1 */` plans `select 1`. -/
theorem hint_sql_round_trip_select_one :
    getMyCatHintSQL "/* !mycat:" ("/* !mycat:" ++ "sql=" ++ "select 1" ++ " " ++ "*/") =
        "select 1" ∧
      checkMyCatHintPlan "/* !mycat:" ("/* !mycat:" ++ "sql=" ++ "select 1" ++ " " ++ "*/")
        (fun sql => (.ok sql : Except String String)) = .ok (some "select 1") :=
  have hround := hint_sql_round_trip "/* !mycat:" "select 1" " "
    (fun sql => (.ok sql : Except String String)) (by decide) (by decide) (by decide) (by decide)
  ⟨hround.1 "" (by decide), hround.2 (by decide) (by decide)⟩

/-- A space after the closing `*/` keeps it in the SQL. -/
example : getMyCatHintSQL "/* !mycat:" "/* !mycat:sql=select 1 */ " = "select 1 */" := by
  decide

end Gaea.Server
