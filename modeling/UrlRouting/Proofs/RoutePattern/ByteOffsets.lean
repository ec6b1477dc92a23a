import Mathlib.Data.String.Basic
import UrlRouting.Proofs.RoutePattern.SeveralParts

/-!
# Fitting in stored text

A text is stored in UTF-8, and a search through stored text goes by offsets in bytes. A slice of the
text exists only between offsets that are in order, not beyond the end, and not inside of a
character (`slice?`). Here the fitting of a segment to a piece is written with offsets and slices
(`takePiece?`), where `none` in front of everything else says that there was no such slice. This
never happens, and the answer is the one that `fitParts` gives (`takePiece?_eq`).
-/

namespace UrlRouting

open Text String

/-! ### Slices -/

/-- The part of a text between two offsets in bytes, if there is one. -/
def slice? (text : String) (start stop : Nat) : Option String :=
  if start ≤ stop ∧ Pos.Raw.IsValid text ⟨start⟩ ∧ Pos.Raw.IsValid text ⟨stop⟩ then
    some (Pos.Raw.extract text ⟨start⟩ ⟨stop⟩)
  else none

/-- The offsets at which the characters of a text start. -/
def charStarts (text : String) : List Nat :=
  (List.range text.toList.length).map fun i => utf8Len (text.toList.take i)

/-- The offsets at which the characters of a text stop. -/
def charStops (text : String) : List Nat :=
  (List.range text.toList.length).map fun i => utf8Len (text.toList.take (i + 1))

theorem isValid_utf8Len (front back : List Char) :
    Pos.Raw.IsValid (ofList (front ++ back)) ⟨utf8Len front⟩ := by
  refine Pos.Raw.isValid_iff_exists_append.2 ⟨ofList front, ofList back, ofList_append, ?_⟩
  simp

/-- Between two characters there are slices. -/
theorem slice?_append (front middle back : List Char) :
    slice? (ofList (front ++ middle ++ back)) (utf8Len front) (utf8Len front + utf8Len middle) =
      some (ofList middle) := by
  have hstart : Pos.Raw.IsValid (ofList (front ++ middle ++ back)) ⟨utf8Len front⟩ := by
    rw [List.append_assoc]
    exact isValid_utf8Len front (middle ++ back)
  have hstop := isValid_utf8Len (front ++ middle) back
  rw [utf8Len_append] at hstop
  rw [slice?, if_pos ⟨Nat.le_add_right _ _, hstart, hstop⟩, extract_of_valid]

theorem slice?_beginning (front back : List Char) :
    slice? (ofList (front ++ back)) 0 (utf8Len front) = some (ofList front) := by
  simpa using slice?_append [] front back

theorem slice?_ending (front back : List Char) :
    slice? (ofList (front ++ back)) (utf8Len front) (ofList (front ++ back)).utf8ByteSize =
      some (ofList back) := by
  have hslice := slice?_append front back []
  rwa [List.append_nil, ← utf8Len_append, ← utf8ByteSize_ofList (front ++ back)] at hslice

/-! ### Searching by offsets -/

/-- The offset behind the shortest beginning of a text that is the literal up to case. -/
def leadingStop? (literal text : String) : Option (Option Nat) :=
  (charStops text).findM? fun stop =>
    (slice? text 0 stop).map fun beginning => sameText beginning literal

/-- The offset of the rightmost ending of a text that is the literal up to case. -/
def endingStart? (literal text : String) : Option (Option Nat) :=
  (charStarts text).reverse.findM? fun start =>
    (slice? text start text.utf8ByteSize).map fun ending => sameText ending literal

/-- The offsets before and behind the rightmost place of the literal that has something after
it. -/
def lastPlace? (literal text : String) : Option (Option (Nat × Nat)) :=
  (charStarts text).reverse.findSomeM? fun start => do
    let rest ← slice? text start text.utf8ByteSize
    let size? ← leadingStop? literal rest
    return (size?.map fun size => (start, start + size)).filter fun place =>
      place.2 < text.utf8ByteSize

/-- Fits parts, given from right to left, to the text of a piece before an offset. -/
def searchBefore (piece : String) (open? : Option Parameter) (stop : Nat) :
    List Part → Option (Option (List (Parameter × String)))
  | [] =>
    match open? with
    | some p =>
      match slice? piece 0 stop with
      | some value => some (if value.isEmpty then none else some [(p, value)])
      | none => some none
    | none => some (if stop = 0 then some [] else none)
  | .parameter p :: parts => searchBefore piece (some p) stop parts
  | .literal literal :: parts => do
    let text ← slice? piece 0 stop
    match open? with
    | some p =>
      match ← lastPlace? literal text with
      | some (start, literalStop) =>
        let value ← slice? piece literalStop stop
        let others? ← searchBefore piece none start parts
        return others?.map ((p, value) :: ·)
      | none => return none
    | none =>
      match ← endingStart? literal text with
      | some start => searchBefore piece none start parts
      | none => return none

/-- Fits a segment to a piece: whether it takes the piece, and the values afterwards. -/
def takePiece? (vs : Bindings) (s : Segment) (piece : String) : Option (Bool × Bindings) :=
  (searchBefore piece none piece.utf8ByteSize s.reverse).map fun found? =>
    match found? with
    | some found => (true, found.foldl (fun vs (p, value) => vs.bind p.name value) vs)
    | none => (false, vs)

/-! ### The two searches agree -/

section

variable {α β γ : Type} {l : List α} {g : α → β}

/-- A search whose tests all give an answer is a search without failures. -/
theorem findM?_map {f : β → Option Bool} {p : α → Bool} (h : ∀ a ∈ l, f (g a) = some (p a)) :
    (l.map g).findM? f = some ((l.find? p).map g) := by
  induction l with
  | nil => rfl
  | cons a l ih =>
    rw [List.forall_mem_cons] at h
    rw [List.map_cons, List.findM?, h.1, List.find?_cons, Option.bind_eq_bind, Option.bind_some]
    cases p a with
    | true => rfl
    | false => exact ih h.2

theorem findSomeM?_map {f : β → Option (Option γ)} {q : α → Option γ}
    (h : ∀ a ∈ l, f (g a) = some (q a)) : (l.map g).findSomeM? f = some (l.findSome? q) := by
  induction l with
  | nil => rfl
  | cons a l ih =>
    rw [List.forall_mem_cons] at h
    rw [List.map_cons, List.findSomeM?, h.1, List.findSome?_cons, Option.bind_eq_bind,
      Option.bind_some]
    cases q a with
    | some c => rfl
    | none => exact ih h.2

end

section

variable {literal : String} {text before after : List Char}

theorem leadingStop?_eq (literal : String) (text : List Char) :
    leadingStop? literal (ofList text) =
      some ((leadingLength? literal text).map fun n => utf8Len (text.take n)) := by
  have hstops : charStops (ofList text) =
      ((List.range text.length).map (· + 1)).map fun n => utf8Len (text.take n) := by
    simp [charStops]
  rw [leadingStop?, hstops, leadingLength?]
  refine findM?_map fun n _ => ?_
  have hslice := slice?_beginning (text.take n) (text.drop n)
  rw [List.take_append_drop] at hslice
  rw [hslice]
  rfl

theorem endingStart?_eq (literal : String) (text : List Char) :
    endingStart? literal (ofList text) = some ((beforeEnding? literal text).map utf8Len) := by
  have hstarts : (charStarts (ofList text)).reverse =
      (List.range text.length).reverse.map fun i => utf8Len (text.take i) := by
    simp [charStarts]
  rw [endingStart?, hstarts, beforeEnding?, Option.map_map]
  refine findM?_map fun i _ => ?_
  have hslice := slice?_ending (text.take i) (text.drop i)
  rw [List.take_append_drop] at hslice
  rw [hslice]
  rfl

/-- The offsets before and behind a literal, by what is before and after it. -/
def offsetsAround (text : List Char) (around : List Char × List Char) : Nat × Nat :=
  (utf8Len around.1, utf8Len text - utf8Len around.2)

theorem lastPlace?_eq (literal : String) (text : List Char) :
    lastPlace? literal (ofList text) =
      some ((aroundLast? literal text).map (offsetsAround text)) := by
  have hstarts : (charStarts (ofList text)).reverse =
      (List.range text.length).reverse.map fun i => utf8Len (text.take i) := by
    simp [charStarts]
  rw [show aroundLast? literal text =
    (List.range text.length).reverse.findSome? (placeAt? literal text) from rfl,
    List.map_findSome?, lastPlace?, hstarts]
  refine findSomeM?_map fun i _ => ?_
  have hslice := slice?_ending (text.take i) (text.drop i)
  rw [List.take_append_drop] at hslice
  rw [hslice, Option.bind_eq_bind, Option.bind_some, leadingStop?_eq, Option.bind_eq_bind,
    Option.bind_some, Function.comp_apply, placeAt?]
  cases leadingLength? literal (text.drop i) with
  | none => rfl
  | some n =>
    -- the bytes of a text are those before, of and behind the literal
    have hsplit : text = text.take i ++ ((text.drop i).take n ++ text.drop (i + n)) := by
      rw [← List.drop_drop, List.take_append_drop, List.take_append_drop]
    have hsize := congrArg utf8Len hsplit
    rw [utf8Len_append, utf8Len_append] at hsize
    have hrest : utf8Len (text.drop (i + n)) = 0 ↔ text.length ≤ i + n := by
      rw [utf8Len_eq_zero, List.drop_eq_nil_iff]
    have hbytes := utf8ByteSize_ofList text
    by_cases hlt : i + n < text.length
    · have hpos : utf8Len (text.take i) + utf8Len ((text.drop i).take n) <
          (ofList text).utf8ByteSize := by
        omega
      have hstop : utf8Len (text.take i) + utf8Len ((text.drop i).take n) =
          utf8Len text - utf8Len (text.drop (i + n)) := by
        omega
      simp [Option.filter, hlt, hpos, ← hstop, offsetsAround]
    · have hpos : ¬ utf8Len (text.take i) + utf8Len ((text.drop i).take n) <
          (ofList text).utf8ByteSize := by
        omega
      simp [Option.filter, hlt, hpos]

/-- What is found before and after a literal are the ends of the text. -/
theorem exists_of_aroundLast? (h : aroundLast? literal text = some (before, after)) :
    ∃ middle, text = before ++ middle ++ after := by
  obtain ⟨i, -, hplace, -⟩ := findSome?_reverse_range.1 h
  split at hplace
  next n hn =>
    split at hplace
    · cases hplace
      refine ⟨(text.drop i).take n, ?_⟩
      rw [List.append_assoc, ← List.drop_drop, List.take_append_drop, List.take_append_drop]
    · cases hplace
  next => cases hplace

theorem exists_of_beforeEnding? (h : beforeEnding? literal text = some before) :
    ∃ middle, text = before ++ middle := by
  obtain ⟨start, -, rfl⟩ := Option.map_eq_some_iff.1 h
  exact ⟨text.drop start, (List.take_append_drop start text).symm⟩

end

/-- The search by offsets finds what the search through characters finds. -/
theorem searchBefore_eq (open? : Option Parameter) (text rest : List Char) (rev : List Part) :
    searchBefore (ofList (text ++ rest)) open? (utf8Len text) rev =
      some ((fitFromRight open? text rev).map (·.map fun x => (x.1, ofList x.2))) := by
  fun_induction fitFromRight open? text rev generalizing rest with
  | case1 text p htext | case2 text p htext =>
    rw [searchBefore, slice?_beginning]
    simpa using htext
  | case3 text htext | case4 text htext =>
    simp only [searchBefore, utf8Len_eq_zero]
    simpa using htext
  | case5 open? text p rev ih => exact ih rest
  | case6 text literal rev p before after haround ih =>
    obtain ⟨middle, rfl⟩ := exists_of_aroundLast? haround
    have hvalue := slice?_append (before ++ middle) after rest
    have hothers := ih (middle ++ (after ++ rest))
    rw [← List.append_assoc, ← List.append_assoc] at hothers
    rw [← utf8Len_append] at hvalue
    have hstop : utf8Len (before ++ middle ++ after) - utf8Len after =
        utf8Len (before ++ middle) := by
      rw [utf8Len_append, Nat.add_sub_cancel]
    rw [searchBefore, slice?_beginning]
    simp only [Option.bind_eq_bind, Option.bind_some, lastPlace?_eq, haround, Option.map_some,
      offsetsAround, hstop, hvalue, hothers, Option.map_map]
    rfl
  | case7 text literal rev p hnone =>
    rw [searchBefore, slice?_beginning]
    simp [lastPlace?_eq, hnone]
  | case8 text literal rev before hbefore ih =>
    obtain ⟨middle, rfl⟩ := exists_of_beforeEnding? hbefore
    have hothers := ih (middle ++ rest)
    rw [← List.append_assoc] at hothers
    rw [searchBefore, slice?_beginning]
    simp only [Option.bind_eq_bind, Option.bind_some, endingStart?_eq, hbefore, Option.map_some,
      hothers]
  | case9 text literal rev hnone =>
    rw [searchBefore, slice?_beginning]
    simp [endingStart?_eq, hnone]

/-- Fitting by offsets in bytes finds each slice that it asks for, and its answer is the one of
`fitParts`. -/
theorem takePiece?_eq (vs : Bindings) (s : Segment) (piece : String) :
    takePiece? vs s piece = some (match fitParts s piece with
      | some fitted => (true, bindFitted vs fitted)
      | none => (false, vs)) := by
  have hsearch := searchBefore_eq none piece.toList [] s.reverse
  rw [List.append_nil, ofList_toList, utf8Len_toList] at hsearch
  rw [takePiece?, hsearch, fitParts]
  cases fitFromRight none piece.toList s.reverse with
  | none => rfl
  | some fitted => simp [bindFitted, List.foldl_map]

end UrlRouting
