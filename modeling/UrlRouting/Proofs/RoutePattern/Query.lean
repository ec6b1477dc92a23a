import Mathlib.Data.List.TakeWhile
import UrlRouting.Proofs.Text.Percent
import UrlRouting.Proofs.UrlPath
import UrlRouting.RoutePattern.Filling

/-!
# Reading links

A link falls into a path and, behind its first question mark, the pairs of a query. A query that is
written behind a path without question marks is read back (`linkPairs_withQuery`).
-/

namespace UrlRouting

open Text RoutePattern

/-- The text of a link before its first question mark. -/
def linkPath (url : String) : String := String.ofList (url.toList.takeWhile (· != '?'))

/-- The key and the value of a pair: the texts before and behind its first equals sign, decoded. -/
def readPair (cs : List Char) : String × String :=
  (percentDecode (String.ofList (cs.takeWhile (· != '='))),
   percentDecode (String.ofList ((cs.dropWhile (· != '=')).drop 1)))

/-- The pairs behind the first question mark of a link. -/
def linkPairs (url : String) : List (String × String) :=
  match url.toList.dropWhile (· != '?') with
  | [] => []
  | _ :: query => (splitAt (· == '&') query).map readPair

theorem bne_of_notMem {c : Char} {cs : List Char} (h : c ∉ cs) : ∀ d ∈ cs, (d != c) = true := by
  intro d hd
  rw [bne_iff_ne]
  rintro rfl
  exact h hd

theorem takeWhile_append_sep {c : Char} {cs rest : List Char} (h : c ∉ cs) :
    (cs ++ c :: rest).takeWhile (· != c) = cs := by
  rw [List.takeWhile_append_of_pos (bne_of_notMem h)]
  simp

theorem dropWhile_append_sep {c : Char} {cs rest : List Char} (h : c ∉ cs) :
    (cs ++ c :: rest).dropWhile (· != c) = c :: rest := by
  rw [List.dropWhile_append_of_pos (bne_of_notMem h)]
  simp

theorem toList_writeQueryPair (b : Binding) :
    (writeQueryPair b).toList =
      (percentEncode .query b.name).toList ++ '=' :: (percentEncode .query b.value).toList := by
  simp [writeQueryPair]

/-- A written pair is read back. -/
theorem readPair_writeQueryPair (b : Binding) :
    readPair (writeQueryPair b).toList = (b.name, b.value) := by
  have hname : '=' ∉ (percentEncode .query b.name).toList :=
    notMem_percentEncode (by decide) (by decide) b.name
  rw [readPair, toList_writeQueryPair, takeWhile_append_sep hname, dropWhile_append_sep hname,
    String.ofList_toList, percentDecode_percentEncode, List.drop_one, List.tail_cons,
    String.ofList_toList, percentDecode_percentEncode]

theorem notMem_writeQueryPair (b : Binding) : '&' ∉ (writeQueryPair b).toList := by
  rw [toList_writeQueryPair, List.mem_append, List.mem_cons]
  rintro (h | h | h)
  · exact notMem_percentEncode (by decide) (by decide) b.name h
  · cases h
  · exact notMem_percentEncode (by decide) (by decide) b.value h

/-- A path with a query that is written behind it. -/
def withQuery (path : String) (bs : List Binding) : String :=
  path ++ (if (bs.map writeQueryPair).isEmpty then ""
    else "?" ++ "&".intercalate (bs.map writeQueryPair))

theorem toList_withQuery {path : String} {bs : List Binding} (h : bs ≠ []) :
    (withQuery path bs).toList =
      path.toList ++ '?' :: ['&'].intercalate (bs.map fun b => (writeQueryPair b).toList) := by
  have hne : (bs.map writeQueryPair).isEmpty = false := by simpa using h
  rw [withQuery, hne, if_neg Bool.false_ne_true, String.toList_append, String.toList_append,
    String.toList_intercalate, List.map_map]
  rfl

theorem withQuery_nil (path : String) : withQuery path [] = path := by
  simp [withQuery]

/-- The path of a link with a query is the path it was written from. -/
theorem linkPath_withQuery {path : String} (h : '?' ∉ path.toList) (bs : List Binding) :
    linkPath (withQuery path bs) = path := by
  by_cases hbs : bs = []
  · subst hbs
    rw [withQuery_nil, linkPath, List.takeWhile_eq_self_iff.2 (bne_of_notMem h),
      String.ofList_toList]
  · rw [linkPath, toList_withQuery hbs, takeWhile_append_sep h, String.ofList_toList]

/-- The pairs read from the query of a link are the bindings it was written from. -/
theorem linkPairs_withQuery {path : String} (h : '?' ∉ path.toList) (bs : List Binding) :
    linkPairs (withQuery path bs) = bs.map fun b => (b.name, b.value) := by
  by_cases hbs : bs = []
  · subst hbs
    rw [withQuery_nil, linkPairs, List.dropWhile_eq_nil_iff.2 (bne_of_notMem h)]
    rfl
  · have hsplit : (['&'].intercalate (bs.map fun b => (writeQueryPair b).toList)).splitOn '&' =
        bs.map fun b => (writeQueryPair b).toList := by
      refine List.splitOn_intercalate '&' (fun part hpart => ?_) (by simpa using hbs)
      obtain ⟨b, -, rfl⟩ := List.mem_map.1 hpart
      exact notMem_writeQueryPair b
    rw [linkPairs, toList_withQuery hbs, dropWhile_append_sep h]
    simp only [splitAt_eq_splitOn, hsplit, List.map_map, Function.comp_def,
      readPair_writeQueryPair]

end UrlRouting
