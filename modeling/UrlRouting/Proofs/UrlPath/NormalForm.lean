import Mathlib.Data.List.Chain
import UrlRouting.Proofs.Text.Percent
import UrlRouting.Proofs.UrlPath

/-!
# The normal form of a path

A path in normal form is determined by its words: it is a slash and then the words with single
slashes between them (`IsNormal.eq`). As `normalizePath` gives a path in normal form with the same
words, it is the identity on normal forms, and two paths have one normal form if and only if they
have the same words (`UrlPath.normal_form`).
-/

namespace UrlRouting

open Text

namespace UrlPath

/-- Two characters that may stand side by side in a normal form: not both are slashes. -/
def Apart (a b : Char) : Prop := ¬ (a = '/' ∧ b = '/')

/-- The text of a path in normal form. -/
structure IsNormal (cs : List Char) : Prop where
  /-- It begins with a slash. -/
  head : cs.head? = some '/'
  /-- No two slashes stand side by side. -/
  apart : cs.IsChain Apart
  /-- It ends with a slash only if it is one. -/
  last : cs.getLast? = some '/' → cs = ['/']

/-! ### A normal form has the words of its text -/

/-- Behind the first slash of a text there are no empty parts, if its slashes stand apart and none
stands at its end. -/
theorem ne_nil_of_mem_tail_splitOn {cs : List Char} (hapart : cs.IsChain Apart)
    (hlast : cs.getLast? ≠ some '/') : ∀ part ∈ (cs.splitOn '/').tail, part ≠ [] := by
  induction cs with
  | nil => simp
  | cons c cs ih =>
    have hapart' : cs.IsChain Apart := hapart.tail
    by_cases hc : c = '/'
    · subst hc
      rw [show ('/' :: cs).splitOn '/' = [] :: cs.splitOn '/' from
        List.splitOn_append_cons_self [] cs, List.tail_cons]
      cases cs with
      | nil => exact absurd rfl hlast
      | cons c' cs =>
        rw [List.getLast?_cons_cons] at hlast
        have hc' : c' ≠ '/' := fun heq => (List.isChain_cons_cons.1 hapart).1 ⟨rfl, heq⟩
        obtain ⟨part, parts, hparts⟩ :=
          List.exists_cons_of_ne_nil (List.splitOn_ne_nil '/' cs)
        have hsplit := splitOn_cons_ne hc' hparts
        have ih := ih hapart' hlast
        rw [hsplit, List.tail_cons] at ih
        rw [hsplit, List.forall_mem_cons]
        exact ⟨List.cons_ne_nil _ _, ih⟩
    · obtain ⟨part, parts, hparts⟩ := List.exists_cons_of_ne_nil (List.splitOn_ne_nil '/' cs)
      have hlast' : cs.getLast? ≠ some '/' := by
        cases cs with
        | nil => simp
        | cons c' cs => rwa [List.getLast?_cons_cons] at hlast
      have ih := ih hapart' hlast'
      rw [hparts] at ih
      rw [splitOn_cons_ne hc hparts]
      exact ih

/-- A normal form is a slash with the words behind it, single slashes between them. -/
theorem IsNormal.eq {cs : List Char} (h : IsNormal cs) :
    cs = '/' :: ['/'].intercalate (words cs) := by
  obtain ⟨rest, rfl⟩ := List.head?_eq_some_iff.1 h.head
  rw [words_slash]
  cases rest with
  | nil => rfl
  | cons c rest =>
    have hlast : ('/' :: c :: rest).getLast? ≠ some '/' := fun heq => by
      cases h.last heq
    have hparts := ne_nil_of_mem_tail_splitOn h.apart hlast
    rw [show ('/' :: c :: rest).splitOn '/' = [] :: (c :: rest).splitOn '/' from
      List.splitOn_append_cons_self [] (c :: rest), List.tail_cons] at hparts
    have hwords : words (c :: rest) = (c :: rest).splitOn '/' := by
      rw [words, List.filter_eq_self]
      intro part hpart
      simpa using hparts part hpart
    rw [hwords, List.intercalate_splitOn]

/-! ### What normalizing leaves -/

/-- Dropping slashes that follow a slash leaves slashes that stand apart, and none in front where a
slash stands before. -/
theorem isChain_collapseSlashes (cs : List Char) :
    ('/' :: collapseSlashes true cs).IsChain Apart ∧ (collapseSlashes false cs).IsChain Apart := by
  induction cs with
  | nil => exact ⟨List.isChain_singleton _, List.isChain_nil⟩
  | cons c cs ih =>
    by_cases hc : c = '/'
    · subst hc
      exact ⟨ih.1, ih.1⟩
    · have hstep (b : Bool) : collapseSlashes b (c :: cs) = c :: collapseSlashes false cs := by
        simp [collapseSlashes]
      have hcons : (c :: collapseSlashes false cs).IsChain Apart := by
        cases hrest : collapseSlashes false cs with
        | nil => exact List.isChain_singleton _
        | cons c' rest =>
          rw [hrest] at ih
          exact List.isChain_cons_cons.2 ⟨fun h => hc h.1, ih.2⟩
      rw [hstep, hstep]
      exact ⟨List.isChain_cons_cons.2 ⟨fun h => hc h.2, hcons⟩, hcons⟩

/-- Dropping a slash at the end brings a text whose slashes stand apart into normal form. -/
theorem isNormal_dropLast {cs : List Char} (hhead : cs.head? = some '/')
    (hapart : cs.IsChain Apart) :
    IsNormal (if cs.length > 1 && cs.getLast? == some '/' then cs.dropLast else cs) := by
  obtain ⟨rest, rfl⟩ := List.head?_eq_some_iff.1 hhead
  split
  next h =>
    simp only [Bool.and_eq_true, decide_eq_true_eq, beq_iff_eq] at h
    obtain ⟨front, hfront⟩ := List.getLast?_eq_some_iff.1 h.2
    rw [hfront] at hapart ⊢
    have hne : front ≠ [] := by
      rintro rfl
      rw [hfront] at h
      simp at h
    rw [List.dropLast_concat]
    rw [List.isChain_append] at hapart
    refine ⟨?_, hapart.1, fun hlast => ?_⟩
    · obtain ⟨c, front, rfl⟩ := List.exists_cons_of_ne_nil hne
      rw [List.cons_append, List.cons.injEq] at hfront
      rw [← hfront.1]
      rfl
    · exact absurd ⟨rfl, rfl⟩ (hapart.2.2 '/' hlast '/' rfl)
  next h =>
    refine ⟨hhead, hapart, fun hlast => ?_⟩
    cases rest with
    | nil => rfl
    | cons c rest => exact absurd (by simp [hlast]) h

theorem isNormal_normalizePath (path : String) : IsNormal (normalizePath path).toList := by
  rw [normalizePath, String.toList_ofList]
  apply isNormal_dropLast
  · split
    next h =>
      obtain ⟨rest, hrest⟩ := List.head?_eq_some_iff.1 h
      rw [hrest]
      rfl
    · rfl
  · split
    · exact (isChain_collapseSlashes _).2
    · exact (isChain_collapseSlashes _).1

/-- The normal form of a path is made of its words. -/
theorem toList_normalizePath (path : String) :
    (normalizePath path).toList = '/' :: ['/'].intercalate (words path.toList) := by
  rw [← words_normalizePath]
  exact (isNormal_normalizePath path).eq

/-- Paths have one normal form if and only if they have the same words. -/
theorem normalizePath_eq_iff {path path' : String} :
    normalizePath path = normalizePath path' ↔ words path.toList = words path'.toList := by
  constructor
  · intro h
    rw [← words_normalizePath, h, words_normalizePath]
  · intro h
    rw [← String.toList_inj, toList_normalizePath, toList_normalizePath, h]

/-! ### Pieces -/

/-- No piece of a path is empty, since no escape stands for nothing. -/
theorem ne_empty_of_mem_pieces {path piece : String} (h : piece ∈ (ofString path).pieces) :
    piece ≠ "" := by
  rw [pieces_ofString, List.mem_map] at h
  obtain ⟨w, hw, rfl⟩ := h
  have hne : w ≠ [] := by simpa using (List.mem_filter.1 hw).2
  exact percentDecode_ne_empty (by simpa using hne)

theorem intercalate_ne_empty {piece : String} (h : piece ≠ "") (pieces : List String) :
    "/".intercalate (piece :: pieces) ≠ "" := by
  intro hempty
  have hlist := congrArg String.toList hempty
  cases pieces with
  | nil => simp [h] at hlist
  | cons piece' pieces => simp at hlist

/-- The remainder of a path is empty only behind its last piece. -/
theorem remainder_eq_empty_iff {path : String} {i : Nat} :
    (ofString path).remainder i = "" ↔ (ofString path).pieces.length ≤ i := by
  rw [remainder, ← List.drop_eq_nil_iff]
  constructor
  · intro hempty
    cases hdrop : (ofString path).pieces.drop i with
    | nil => rfl
    | cons piece pieces =>
      have hmem : piece ∈ (ofString path).pieces.drop i := by simp [hdrop]
      rw [hdrop] at hempty
      exact absurd hempty
        (intercalate_ne_empty (ne_empty_of_mem_pieces (List.mem_of_mem_drop hmem)) pieces)
  · intro hdrop
    rw [hdrop]
    rfl

/-- **Normal forms are canonical and keep the pieces**: the normal form of a path begins with a
slash, has no two slashes side by side and ends with a slash only if it is one; it is its own normal
form, and paths share it if and only if they have the same words. It is read as the same pieces as
the path: the decoded words in order, none of them empty. The remainder from a position on joins
the pieces there, and nothing is left behind the last piece. -/
theorem normal_form (path : String) :
    (normalizePath path).toList.head? = some '/' ∧
    ¬ ['/', '/'] <:+: (normalizePath path).toList ∧
    ((normalizePath path).toList.getLast? = some '/' ↔ normalizePath path = "/") ∧
    normalizePath (normalizePath path) = normalizePath path ∧
    (∀ path', normalizePath path = normalizePath path' ↔
      words path.toList = words path'.toList) ∧
    ofString (normalizePath path) = ofString path ∧
    (ofString path).pieces =
      (words path.toList).map (fun w => percentDecode (String.ofList w)) ∧
    "" ∉ (ofString path).pieces ∧
    ∀ i, (ofString path).remainder i = "/".intercalate ((ofString path).pieces.drop i) ∧
      ((ofString path).remainder i = "" ↔ (ofString path).pieces.length ≤ i) := by
  have hnormal := isNormal_normalizePath path
  have hsame : normalizePath (normalizePath path) = normalizePath path :=
    normalizePath_eq_iff.2 (words_normalizePath path)
  refine ⟨hnormal.head, ?_, ?_, hsame, fun path' => normalizePath_eq_iff, ?_,
    pieces_ofString path, fun hmem => ne_empty_of_mem_pieces hmem rfl,
    fun i => ⟨rfl, remainder_eq_empty_iff⟩⟩
  · intro hinfix
    have hchain := hnormal.apart.infix hinfix
    exact (List.isChain_cons_cons.1 hchain).1 ⟨rfl, rfl⟩
  · constructor
    · intro hlast
      rw [← String.toList_inj]
      exact hnormal.last hlast
    · intro hslash
      rw [hslash]
      rfl
  · rw [ofString, hsame]
    rfl

end UrlPath

end UrlRouting
