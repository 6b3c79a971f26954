import Mathlib

/-! # The Go string functions the proxy calls

`unicode.IsSpace`, `strings.TrimSpace`, `strings.TrimRight`, `strings.HasPrefix` and
`strings.Split`, on Lean strings, which hold valid Unicode only. `Split` is modelled for a
separator that is not empty: it cuts at the occurrences of the separator from left to right,
each one starting after the one before. The model scans the string once and cuts where the
piece read so far ends with the separator. For a separator of fixed length, the first
occurrence to end is the first to start, so this is Go's loop over `Index`.
-/

namespace Gaea.Strings

/-- `unicode.IsSpace`: the Latin-1 spaces and the other characters of Unicode's `White_Space`. -/
def isSpace (c : Char) : Bool :=
  let n := c.toNat
  (0x09 ≤ n && n ≤ 0x0D) || n == 0x20 || n == 0x85 || n == 0xA0 || n == 0x1680 ||
    (0x2000 ≤ n && n ≤ 0x200A) || n == 0x2028 || n == 0x2029 || n == 0x202F || n == 0x205F ||
    n == 0x3000

/-- `strings.TrimSpace`. -/
def trimSpace (s : String) : String :=
  ⟨((s.data.dropWhile isSpace).reverse.dropWhile isSpace).reverse⟩

/-- `strings.TrimRight(s, cutset)`: `s` without the characters of `cutset` at its end. -/
def trimRight (s cutset : String) : String :=
  ⟨(s.data.reverse.dropWhile fun c => decide (c ∈ cutset.data)).reverse⟩

/-- `strings.HasPrefix`. -/
def hasPrefix (s pre : String) : Bool :=
  pre.data.isPrefixOf s.data

/-- The pieces `strings.Split` cuts from the rest `s` of a string around `sep`, `piece` being the
piece read so far, last character first. -/
def splitAux (sep : List Char) : List Char → List Char → List (List Char)
  | [], piece => [piece.reverse]
  | c :: s, piece =>
      if sep.reverse.isPrefixOf (c :: piece) then
        ((c :: piece).drop sep.length).reverse :: splitAux sep s []
      else splitAux sep s (c :: piece)

/-- `strings.Split(s, sep)` for a separator that is not empty. -/
def split (s sep : String) : List String :=
  (splitAux sep.data s.data []).map String.mk

example : split "a,b,,c" "," = ["a", "b", "", "c"] ∧ split "xaaay" "aa" = ["x", "ay"] ∧
    trimSpace " \t gaea_ns\n" = "gaea_ns" ∧ trimSpace "\u3000" = "" ∧
    trimRight "select 1 */" "*/" = "select 1 " := by
  decide

/-! ### `TrimSpace` and `TrimRight` -/

/-- A list whose first element fails `p` loses nothing to `dropWhile p`. -/
theorem dropWhile_eq_self_of_head {p : Char → Bool} {l : List Char}
    (hhead : ∀ c ∈ l.head?, p c = false) : l.dropWhile p = l := by
  cases l with
  | nil => rfl
  | cons c l => simp [List.dropWhile_cons, hhead c rfl]

/-- Trimming a text that neither starts nor ends with a space, followed by spaces, gives the
text back. -/
theorem trimSpace_append_spaces {text spaces : List Char}
    (hfirst : ∀ c ∈ text.head?, isSpace c = false) (hlast : ∀ c ∈ text.getLast?, isSpace c = false)
    (hspaces : ∀ c ∈ spaces, isSpace c) : trimSpace ⟨text ++ spaces⟩ = ⟨text⟩ := by
  rcases List.eq_nil_or_concat text with rfl | ⟨init, d, rfl⟩
  · simp [trimSpace, List.dropWhile_eq_nil_iff.mpr hspaces]
  · simp only [List.concat_eq_append] at hfirst hlast ⊢
    have hhead : ∀ c ∈ (init ++ [d] ++ spaces).head?, isSpace c = false := by
      cases init with
      | nil => simpa using hlast
      | cons c init => simpa using hfirst
    simp only [trimSpace, dropWhile_eq_self_of_head hhead, List.reverse_append,
      List.dropWhile_append_of_pos (fun c hc => hspaces c (List.mem_reverse.mp hc))]
    rw [dropWhile_eq_self_of_head (by simpa using hlast)]
    simp

/-! ### `Split` -/

/-- Characters that do not complete the separator only lengthen the piece. -/
theorem splitAux_append_of_not_infix {sep piece : List Char} {b : List Char}
    (hb : ¬ sep <:+: piece.reverse ++ b) (s : List Char) :
    splitAux sep (b ++ s) piece = splitAux sep s (b.reverse ++ piece) := by
  induction b generalizing piece with
  | nil => rfl
  | cons c b ih =>
      -- the piece read up to `c` does not end with the separator
      have hend : sep.reverse.isPrefixOf (c :: piece) = false := by
        rw [Bool.eq_false_iff, ne_eq, List.isPrefixOf_iff_prefix,
          ← List.reverse_reverse (c :: piece), List.reverse_prefix]
        exact fun hsuffix => hb ((hsuffix.isInfix).trans
          ⟨[], b, by simp⟩)
      rw [List.cons_append, splitAux, hend, if_neg Bool.false_ne_true,
        @ih (c :: piece) (by simpa using hb)]
      simp

/-- A rest that never completes the separator ends the split as one piece. -/
theorem splitAux_of_not_infix {sep piece s : List Char} (hs : ¬ sep <:+: piece.reverse ++ s) :
    splitAux sep s piece = [piece.reverse ++ s] := by
  simpa [splitAux] using splitAux_append_of_not_infix hs []

/-- A string that holds the separator once, at the end of `pre ++ sep`, splits into the text
before it and the text after it. -/
theorem split_append_sep {pre sep body : List Char} (hsep : sep ≠ [])
    (hpre : ¬ sep <:+: (pre ++ sep).dropLast) (hbody : ¬ sep <:+: body) :
    split ⟨pre ++ sep ++ body⟩ ⟨sep⟩ = [⟨pre⟩, ⟨body⟩] := by
  obtain ⟨init, z, rfl⟩ := (List.eq_nil_or_concat sep).resolve_left hsep
  simp only [List.concat_eq_append] at hpre hbody ⊢
  have hinit : ¬ init ++ [z] <:+: [].reverse ++ (pre ++ init) := by
    simpa [← List.append_assoc] using hpre
  have hend : (init ++ [z]).reverse.isPrefixOf (z :: (pre ++ init).reverse) = true := by
    simp
  have hlen : (init ++ [z]).length = (z :: init.reverse).length := by simp
  simp only [split, List.append_assoc, List.singleton_append]
  rw [← List.append_assoc pre, splitAux_append_of_not_infix hinit, List.append_nil, splitAux,
    hend, if_pos rfl, splitAux_of_not_infix (by simpa using hbody)]
  simp [List.reverse_append, hlen, List.drop_left']

end Gaea.Strings
