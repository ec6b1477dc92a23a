import Mathlib.Data.List.Basic
import UrlRouting.UrlPath

/-!
# The pieces of a path

The pieces of a path are the words between its slashes (`pieces_ofString`): bringing a path into
its normal form changes none of them. So the pieces of a path that was joined from parts are those
of the parts (`words_intercalate`).
-/

namespace UrlRouting

open Text

theorem Text.splitAt_eq_splitOnP {α : Type} (p : α → Bool) (l : List α) :
    splitAt p l = l.splitOnP p := by
  induction l with
  | nil => rfl
  | cons a l ih =>
    rw [splitAt, ih, List.splitOnP_cons_eq_if_modifyHead]
    split
    · rfl
    · cases h : l.splitOnP p with
      | nil => exact absurd h (List.splitOnP_ne_nil p l)
      | cons part parts => rfl

theorem Text.splitAt_eq_splitOn (c : Char) (l : List Char) :
    splitAt (· == c) l = l.splitOn c :=
  splitAt_eq_splitOnP _ l

namespace UrlPath

/-- The texts between slashes that are not empty. -/
def words (cs : List Char) : List (List Char) := (cs.splitOn '/').filter (!·.isEmpty)

/-- A slash separates the words on its sides. -/
theorem words_append (cs cs' : List Char) : words (cs ++ '/' :: cs') = words cs ++ words cs' := by
  rw [words, List.splitOn_append_cons_self, List.filter_append]
  rfl

theorem words_slash (cs : List Char) : words ('/' :: cs) = words cs := words_append [] cs

theorem words_intercalate (parts : List (List Char)) :
    words (['/'].intercalate parts) = parts.flatMap words := by
  induction parts with
  | nil => rfl
  | cons part parts ih =>
    cases parts with
    | nil => simp
    | cons part' parts =>
      rw [List.intercalate_cons_cons, List.append_assoc, List.singleton_append, words_append, ih]
      rfl

/-- A text without slashes is one word, unless it is empty. -/
theorem words_of_notMem {cs : List Char} (hslash : '/' ∉ cs) (hne : cs ≠ []) : words cs = [cs] := by
  rw [words, List.splitOn_eq_singleton hslash]
  simp [hne]

/-! ### The normal form -/

theorem splitOn_cons_ne {c : Char} (hc : c ≠ '/') {cs head : List Char} {tail : List (List Char)}
    (h : cs.splitOn '/' = head :: tail) : (c :: cs).splitOn '/' = (c :: head) :: tail := by
  rw [List.splitOn_cons_eq_if_modifyHead, if_neg (by simpa using hc), h, List.modifyHead_cons]

/-- Dropping slashes that follow a slash keeps the words, and the text before the first slash
unless there is a slash before it. -/
theorem words_collapseSlashes (cs : List Char) :
    words (collapseSlashes true cs) = words cs ∧
    ∃ head tail tail', cs.splitOn '/' = head :: tail ∧
      (collapseSlashes false cs).splitOn '/' = head :: tail' ∧
      tail'.filter (!·.isEmpty) = tail.filter (!·.isEmpty) := by
  induction cs with
  | nil => exact ⟨rfl, [], [], [], rfl, rfl, rfl⟩
  | cons c cs ih =>
    obtain ⟨hwords, head, tail, tail', hcs, hcollapsed, htail⟩ := ih
    by_cases hc : c = '/'
    · subst hc
      have hslash (cs : List Char) : ('/' :: cs).splitOn '/' = [] :: cs.splitOn '/' :=
        List.splitOn_append_cons_self [] cs
      refine ⟨?_, [], _, _, hslash cs, hslash (collapseSlashes true cs), hwords⟩
      rw [words_slash]
      exact hwords
    · have hstep (b : Bool) : collapseSlashes b (c :: cs) = c :: collapseSlashes false cs := by
        simp [collapseSlashes]
      rw [hstep, hstep]
      refine ⟨?_, c :: head, tail, tail', splitOn_cons_ne hc hcs, splitOn_cons_ne hc hcollapsed,
        htail⟩
      rw [words, words, splitOn_cons_ne hc hcs, splitOn_cons_ne hc hcollapsed, List.filter_cons,
        List.filter_cons, htail]

theorem words_collapseSlashes_false (cs : List Char) :
    words (collapseSlashes false cs) = words cs := by
  obtain ⟨-, head, tail, tail', hcs, hcollapsed, htail⟩ := words_collapseSlashes cs
  rw [words, words, hcs, hcollapsed, List.filter_cons, List.filter_cons, htail]

theorem words_dropLast {cs : List Char} (h : cs.getLast? = some '/') :
    words cs.dropLast = words cs := by
  obtain ⟨front, rfl⟩ := List.getLast?_eq_some_iff.1 h
  rw [List.dropLast_concat, words_append]
  exact (List.append_nil _).symm

/-- A path and its normal form have the same words. -/
theorem words_normalizePath (path : String) :
    words (normalizePath path).toList = words path.toList := by
  have hcollapsed : words (if path.toList.head? = some '/' then collapseSlashes false path.toList
      else '/' :: collapseSlashes true path.toList) = words path.toList := by
    split
    · exact words_collapseSlashes_false _
    · rw [words_slash]
      exact (words_collapseSlashes _).1
  rw [normalizePath, String.toList_ofList, ← hcollapsed]
  generalize (if path.toList.head? = some '/' then collapseSlashes false path.toList
    else '/' :: collapseSlashes true path.toList) = collapsed
  split
  next h =>
    simp only [Bool.and_eq_true, beq_iff_eq] at h
    exact words_dropLast h.2
  next => rfl

/-- The pieces of a path are its words, decoded. -/
theorem pieces_ofString (path : String) :
    (ofString path).pieces = (words path.toList).map fun w => percentDecode (String.ofList w) := by
  rw [← words_normalizePath]
  simp only [ofString, words, splitAt_eq_splitOn]

end UrlPath

end UrlRouting
