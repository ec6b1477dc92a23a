import Mathlib.Data.List.Infix
import UrlRouting.Proofs.Template.Parts
import UrlRouting.Proofs.Text.Folding
import UrlRouting.RoutePattern.Fitting

/-!
# Segments of several parts

A segment of several parts is fitted from the right, and each literal takes the rightmost place that
leaves something for the parameter after it (`aroundLast?_eq_some`). Where values have been written
between the literals, this is the place of the literal itself unless it `recurs`: occurs again, up
to case, further right in the literal and the value after it. So the values are read back if no
literal recurs (`fitParts_of_separated`), and only then (`separated_of_fitParts`).
-/

namespace UrlRouting

open Text

/-! ### Searching from the right -/

/-- Searching numbers from above finds the greatest one for which there is a result. -/
theorem findSome?_reverse_range {α : Type u} {f : Nat → Option α} {n : Nat} {a : α} :
    (List.range n).reverse.findSome? f = some a ↔
      ∃ i < n, f i = some a ∧ ∀ j, i < j → j < n → f j = none := by
  induction n with
  | zero => simp
  | succ n ih =>
    rw [List.range_succ, List.reverse_append, List.reverse_singleton, List.singleton_append,
      List.findSome?_cons]
    cases hn : f n with
    | some b =>
      constructor
      · intro h
        exact ⟨n, n.lt_succ_self, h ▸ hn, fun j hj hj' => by omega⟩
      · rintro ⟨i, hi, hia, hnone⟩
        rcases Nat.lt_succ_iff_lt_or_eq.1 hi with hlt | rfl
        · rw [hnone n hlt n.lt_succ_self] at hn
          cases hn
        · exact hn.symm.trans hia
    | none =>
      rw [ih]
      constructor
      · rintro ⟨i, hi, hia, hnone⟩
        refine ⟨i, Nat.lt_succ_of_lt hi, hia, fun j hj hj' => ?_⟩
        rcases Nat.lt_succ_iff_lt_or_eq.1 hj' with hlt | rfl
        · exact hnone j hj hlt
        · exact hn
      · rintro ⟨i, hi, hia, hnone⟩
        rcases Nat.lt_succ_iff_lt_or_eq.1 hi with hlt | rfl
        · exact ⟨i, hlt, hia, fun j hj hj' => hnone j hj (Nat.lt_succ_of_lt hj')⟩
        · rw [hn] at hia
          cases hia

/-- A literal stands between two texts, up to case. -/
def StandsIn (literal : String) (text before after : List Char) : Prop :=
  ∃ middle, text = before ++ (middle ++ after) ∧ sameText (String.ofList middle) literal

section

variable {literal : String} {text before after : List Char}

/-- The beginning that is found is the only one. -/
theorem leadingLength?_of_sameText {middle : List Char} (hliteral : literal ≠ "")
    (h : sameText (String.ofList middle) literal) :
    leadingLength? literal (middle ++ after) = some middle.length := by
  unfold leadingLength?
  have hpos : 0 < middle.length := List.length_pos_iff.2 (ne_nil_of_sameText hliteral h)
  have hfound : (((List.range (middle ++ after).length).map (· + 1)).find? fun n =>
      sameText (String.ofList ((middle ++ after).take n)) literal).isSome := by
    refine List.find?_isSome.2 ⟨middle.length, List.mem_map.2 ⟨middle.length - 1, ?_, ?_⟩, ?_⟩
    · rw [List.mem_range, List.length_append]
      omega
    · omega
    · rwa [List.take_left]
  obtain ⟨n, hn⟩ := Option.isSome_iff_exists.1 hfound
  rw [hn]
  have hsame := List.find?_some hn
  obtain ⟨i, hi, rfl⟩ := List.mem_map.1 (List.mem_of_find?_eq_some hn)
  have hsplit := List.take_append_drop (i + 1) (middle ++ after)
  rw [← (beginning_unique hsplit hsame h).1, List.length_take, Nat.min_eq_left]
  exact List.mem_range.1 hi

/-- What stands before and after a literal at some place, if it has something after it. -/
def placeAt? (literal : String) (text : List Char) (start : Nat) : Option (List Char × List Char) :=
  match leadingLength? literal (text.drop start) with
  | some n =>
    if start + n < text.length then some (text.take start, text.drop (start + n)) else none
  | none => none

theorem placeAt?_eq_some (hliteral : literal ≠ "") {start : Nat} :
    placeAt? literal text start = some (before, after) ↔
      before.length = start ∧ StandsIn literal text before after ∧ after ≠ [] := by
  unfold placeAt?
  constructor
  · intro h
    split at h
    next n hn =>
      split at h
      next hlt =>
        cases h
        have hsame : sameText (String.ofList ((text.drop start).take n)) literal := by
          unfold leadingLength? at hn
          simpa using List.find?_some hn
        refine ⟨by rw [List.length_take]; omega, ⟨(text.drop start).take n, ?_, hsame⟩, ?_⟩
        · rw [← List.drop_drop, List.take_append_drop, List.take_append_drop]
        · rw [Ne, List.drop_eq_nil_iff]
          omega
      next => cases h
    next => cases h
  · rintro ⟨rfl, ⟨middle, rfl, hsame⟩, hafter⟩
    have hpos : 0 < after.length := List.length_pos_iff.2 hafter
    rw [List.drop_left, leadingLength?_of_sameText hliteral hsame]
    dsimp only
    rw [if_pos, List.take_left, ← List.drop_drop, List.drop_left, List.drop_left]
    rw [List.length_append, List.length_append]
    omega

/-- The place that is found is the rightmost one that has something after it. -/
theorem aroundLast?_eq_some (hliteral : literal ≠ "") :
    aroundLast? literal text = some (before, after) ↔
      (StandsIn literal text before after ∧ after ≠ []) ∧
      ∀ before' after', StandsIn literal text before' after' → after' ≠ [] →
        before'.length ≤ before.length := by
  rw [show aroundLast? literal text =
    (List.range text.length).reverse.findSome? (placeAt? literal text) from rfl,
    findSome?_reverse_range]
  constructor
  · rintro ⟨start, -, hplace, hnone⟩
    obtain ⟨rfl, hstands⟩ := (placeAt?_eq_some hliteral).1 hplace
    refine ⟨hstands, fun before' after' hstands' hafter' => ?_⟩
    by_contra hlt
    have hplace' := (placeAt?_eq_some hliteral).2 ⟨rfl, hstands', hafter'⟩
    rw [hnone before'.length (Nat.lt_of_not_le hlt) ?_] at hplace'
    · cases hplace'
    · obtain ⟨middle, rfl, -⟩ := hstands'
      have hpos : 0 < after'.length := List.length_pos_iff.2 hafter'
      rw [List.length_append, List.length_append]
      omega
  · rintro ⟨⟨hstands, hafter⟩, hlast⟩
    refine ⟨before.length, ?_, (placeAt?_eq_some hliteral).2 ⟨rfl, hstands, hafter⟩, ?_⟩
    · obtain ⟨middle, rfl, -⟩ := hstands
      have hpos : 0 < after.length := List.length_pos_iff.2 hafter
      rw [List.length_append, List.length_append]
      omega
    · intro start hlt _
      cases hplace : placeAt? literal text start with
      | none => rfl
      | some around =>
        obtain ⟨before', after'⟩ := around
        obtain ⟨rfl, hstands', hafter'⟩ := (placeAt?_eq_some hliteral).1 hplace
        exact absurd (hlast before' after' hstands' hafter') (Nat.not_le_of_lt hlt)

/-- A literal that stands in a text with something after it is found. -/
theorem isSome_aroundLast? (hliteral : literal ≠ "") (h : StandsIn literal text before after)
    (hafter : after ≠ []) : (aroundLast? literal text).isSome := by
  have hplace := (placeAt?_eq_some hliteral).2 ⟨rfl, h, hafter⟩
  rw [show aroundLast? literal text =
    (List.range text.length).reverse.findSome? (placeAt? literal text) from rfl,
    List.findSome?_isSome_iff]
  refine ⟨before.length, ?_, by rw [hplace]; rfl⟩
  obtain ⟨middle, rfl, -⟩ := h
  have hpos := List.length_pos_iff.2 hafter
  rw [List.mem_reverse, List.mem_range, List.length_append, List.length_append]
  omega

/-- The ending that is found is the only one. -/
theorem beforeEnding?_eq_some (hliteral : literal ≠ "") :
    beforeEnding? literal text = some before ↔
      ∃ middle, text = before ++ middle ∧ sameText (String.ofList middle) literal := by
  have hsame {start : Nat} (h : (List.range text.length).reverse.find? (fun start =>
      sameText (String.ofList (text.drop start)) literal) = some start) :
      sameText (String.ofList (text.drop start)) literal := by
    simpa using List.find?_some h
  unfold beforeEnding?
  rw [Option.map_eq_some_iff]
  constructor
  · rintro ⟨start, hstart, rfl⟩
    exact ⟨text.drop start, (List.take_append_drop start text).symm, hsame hstart⟩
  · rintro ⟨middle, rfl, hmiddle⟩
    have hpos := List.length_pos_iff.2 (ne_nil_of_sameText hliteral hmiddle)
    have hfound : ((List.range (before ++ middle).length).reverse.find? fun start =>
        sameText (String.ofList ((before ++ middle).drop start)) literal).isSome := by
      refine List.find?_isSome.2 ⟨before.length, ?_, ?_⟩
      · rw [List.mem_reverse, List.mem_range, List.length_append]
        omega
      · rwa [List.drop_left]
    obtain ⟨start, hstart⟩ := Option.isSome_iff_exists.1 hfound
    have hsplit := List.take_append_drop start (before ++ middle)
    exact ⟨start, hstart, (ending_unique hsplit (hsame hstart) hmiddle).1⟩

/-- A literal at the end of a text is found there. -/
theorem beforeEnding?_append (hliteral : literal ≠ "") (before : List Char) :
    beforeEnding? literal (before ++ literal.toList) = some before := by
  refine (beforeEnding?_eq_some hliteral).2 ⟨literal.toList, rfl, ?_⟩
  rw [String.ofList_toList]
  exact sameText_self literal

theorem StandsIn.append (h : StandsIn literal text before after) (front : List Char) :
    StandsIn literal (front ++ text) (front ++ before) after := by
  obtain ⟨middle, rfl, hsame⟩ := h
  exact ⟨middle, (List.append_assoc ..).symm, hsame⟩

/-- A literal that stands right of the front of a text stands in the rest. -/
theorem StandsIn.of_append {front : List Char} (h : StandsIn literal (front ++ text) before after)
    (hlt : front.length < before.length) :
    ∃ more, more ≠ [] ∧ before = front ++ more ∧ StandsIn literal text more after := by
  obtain ⟨middle, htext, hsame⟩ := h
  rcases List.append_eq_append_iff.1 htext with ⟨more, rfl, hrest⟩ | ⟨more, rfl, -⟩
  · refine ⟨more, ?_, rfl, middle, hrest, hsame⟩
    rintro rfl
    simp at hlt
  · rw [List.length_append] at hlt
    omega

end

/-! ### Literals that recur -/

/-- Whether a literal occurs again, up to case, further right in the literal and the value after it,
and has something after it there as well. -/
def recurs (literal value : String) : Bool :=
  (literal.toList ++ value.toList).tail.dropLast.tails.any fun rest =>
    rest.inits.any fun middle => sameText (String.ofList middle) literal

section

variable {literal value : String} {text : List Char}

theorem recurs_iff (hliteral : literal ≠ "") : recurs literal value ↔
    ∃ front back, StandsIn literal (literal.toList ++ value.toList) front back ∧ front ≠ [] ∧
      back ≠ [] := by
  unfold recurs
  simp only [List.any_eq_true, List.mem_tails, List.mem_inits]
  generalize literal.toList ++ value.toList = written
  constructor
  · rintro ⟨_, ⟨before, hbefore⟩, middle, ⟨after, rfl⟩, hsame⟩
    have hne : written.tail ≠ [] := by
      intro hnil
      rw [hnil, List.dropLast_nil, List.append_eq_nil_iff, List.append_eq_nil_iff] at hbefore
      exact ne_nil_of_sameText hliteral hsame hbefore.2.1
    obtain ⟨z, hz⟩ : ∃ z, written.tail = written.tail.dropLast ++ [z] :=
      ⟨_, (List.dropLast_append_getLast hne).symm⟩
    rw [← hbefore] at hz
    cases written with
    | nil => exact absurd rfl hne
    | cons c rest =>
      rw [List.tail_cons] at hz
      refine ⟨c :: before, after ++ [z], ⟨middle, ?_, hsame⟩, by simp, by simp⟩
      rw [hz]
      simp
  · rintro ⟨front, back, ⟨middle, rfl, hsame⟩, hfront, hback⟩
    obtain ⟨c, before, rfl⟩ := List.exists_cons_of_ne_nil hfront
    refine ⟨middle ++ back.dropLast, ⟨before, ?_⟩, middle, List.prefix_append _ _, hsame⟩
    rw [List.cons_append, List.tail_cons, List.dropLast_append_of_ne_nil (by simp [hback]),
      List.dropLast_append_of_ne_nil hback]

/-- A literal that does not recur is found where it was written. -/
theorem aroundLast?_of_not_recurs (hliteral : literal ≠ "") (hvalue : value ≠ "")
    (h : recurs literal value = false) :
    aroundLast? literal (text ++ (literal.toList ++ value.toList)) = some (text, value.toList) := by
  refine (aroundLast?_eq_some hliteral).2 ⟨⟨⟨literal.toList, rfl, ?_⟩, ?_⟩, ?_⟩
  · rw [String.ofList_toList]
    exact sameText_self literal
  · exact fun hnil => hvalue (String.toList_eq_nil_iff.1 hnil)
  · intro before after hstands hafter
    by_contra hlt
    obtain ⟨more, hmore, -, hstands⟩ := hstands.of_append (Nat.lt_of_not_le hlt)
    have hrecurs := (recurs_iff hliteral).2 ⟨more, after, hstands, hmore, hafter⟩
    rw [h] at hrecurs
    cases hrecurs

/-- A literal that recurs leaves less than the value after it. -/
theorem lt_of_recurs (hliteral : literal ≠ "") (h : recurs literal value) {before after : List Char}
    (haround : aroundLast? literal (text ++ (literal.toList ++ value.toList)) =
      some (before, after)) : foldedSize after < foldedSize value.toList := by
  obtain ⟨front, back, hagain, hfront, hback⟩ := (recurs_iff hliteral).1 h
  obtain ⟨⟨hstands, -⟩, hlast⟩ := (aroundLast?_eq_some hliteral).1 haround
  have hlength := hlast _ back (hagain.append text) hback
  have hpos : 0 < front.length := List.length_pos_iff.2 hfront
  rw [List.length_append] at hlength
  obtain ⟨more, hmore, -, middle, hwritten, hsame⟩ := hstands.of_append (by omega)
  have hsize := congrArg foldedSize hwritten
  have hmiddle := foldedSize_of_sameText hsame
  have hmore_pos := foldedSize_pos hmore
  rw [String.toList_ofList] at hmiddle
  simp only [foldedSize_append] at hsize
  omega

end

/-! ### Filled segments -/

/-- A part with a value in place of a parameter. -/
def Part.filled (value : Parameter → String) : Part → String
  | .literal text => text
  | .parameter p => value p

namespace Segment

/-- A segment with values in place of its parameters. -/
def filled (value : Parameter → String) (s : Segment) : String :=
  String.join (s.map (Part.filled value))

/-- What a segment needs to be filled so that it can be read from the right: no literal and no value
is empty, and no two parameters stand side by side. -/
structure Fillable (value : Parameter → String) (s : Segment) : Prop where
  /-- Each literal has some text. -/
  literals : ∀ text, .literal text ∈ s → text ≠ ""
  /-- There is a literal between two parameters. -/
  apart : ∀ p q, ¬ [.parameter p, .parameter q] <:+: s
  /-- Each value has some text. -/
  values : ∀ p, .parameter p ∈ s → value p ≠ ""

/-- No literal of a segment recurs in itself and the value of the parameter after it. -/
def Separated (value : Parameter → String) (s : Segment) : Prop :=
  ∀ literal p, [.literal literal, .parameter p] <:+: s → recurs literal (value p) = false

/-- The parameters of a segment with their values, from right to left. -/
def fitted (value : Parameter → String) (s : Segment) : List (Parameter × List Char) :=
  (parameters s).reverse.map fun p => (p, (value p).toList)

variable {value : Parameter → String} {s s' : Segment}

theorem toList_filled_append : (filled value (s ++ s')).toList =
    (filled value s).toList ++ (filled value s').toList := by
  simp [filled]

theorem filled_cons (part : Part) :
    filled value (part :: s) = part.filled value ++ filled value s := by
  rw [filled, List.map_cons, String.join_cons]
  rfl

theorem filled_literal (literal : String) : filled value [.literal literal] = literal := by
  simp [filled, Part.filled]

theorem filled_parameter (p : Parameter) : filled value [.parameter p] = value p := by
  simp [filled, Part.filled]

theorem fitted_append_literal (literal : String) :
    fitted value (s ++ [.literal literal]) = fitted value s := by
  simp [fitted, parameters, Part.parameter?]

theorem fitted_append_parameter (p : Parameter) :
    fitted value (s ++ [.parameter p]) = (p, (value p).toList) :: fitted value s := by
  simp [fitted, parameters, Part.parameter?]

theorem Fillable.of_append (h : Fillable value (s ++ s')) : Fillable value s where
  literals text htext := h.literals text (List.mem_append_left _ htext)
  apart p q hpq := h.apart p q (hpq.trans (List.prefix_append _ _).isInfix)
  values p hp := h.values p (List.mem_append_left _ hp)

theorem Separated.of_append (h : Separated value (s ++ s')) : Separated value s :=
  fun literal p hp => h literal p (hp.trans (List.prefix_append _ _).isInfix)

/-- Two neighbours in a list that is continued by one element. -/
theorem pair_infix_concat {α : Type u} {a b c : α} {l : List α} :
    [a, b] <:+: l ++ [c] ↔ [a, b] <:+: l ∨ (b = c ∧ [a] <:+ l) := by
  rw [List.infix_concat_iff, List.suffix_concat_iff, or_comm]
  refine or_congr_right ⟨?_, ?_⟩
  · rintro (hnil | ⟨front, hfront, hsuffix⟩)
    · cases hnil
    · obtain ⟨rfl, hlast⟩ := List.append_inj' (show [a] ++ [b] = front ++ [c] from hfront) rfl
      exact ⟨List.singleton_inj.1 hlast, hsuffix⟩
  · rintro ⟨rfl, hsuffix⟩
    exact Or.inr ⟨[a], rfl, hsuffix⟩

theorem separated_of_length_le (h : s.length ≤ 1) : Separated value s :=
  fun _ _ hp => absurd (hp.length_le.trans h) (Nat.not_succ_le_self 1)

theorem separated_append_literal (literal : String) :
    Separated value (s ++ [.literal literal]) ↔ Separated value s := by
  refine ⟨Separated.of_append, fun h literal' p hp => ?_⟩
  rcases pair_infix_concat.1 hp with hp | ⟨hpart, -⟩
  · exact h literal' p hp
  · cases hpart

theorem separated_append_parameter (literal : String) (p : Parameter) :
    Separated value (s ++ [.literal literal] ++ [.parameter p]) ↔
      Separated value s ∧ recurs literal (value p) = false := by
  constructor
  · intro h
    refine ⟨h.of_append.of_append, h literal p ?_⟩
    rw [List.append_assoc]
    exact (List.suffix_append _ _).isInfix
  · rintro ⟨h, hrecurs⟩ literal' p' hp
    rcases pair_infix_concat.1 hp with hp | ⟨hparameter, hliteral⟩
    · exact (separated_append_literal literal).2 h literal' p' hp
    · cases hparameter
      obtain ⟨front, hfront⟩ := hliteral
      cases (List.append_inj' hfront rfl).2
      exact hrecurs

end Segment

/-! ### Fitting what was filled in -/

section

variable {value : Parameter → String}

/-- A filled segment is read back from the right if no literal recurs. -/
theorem fitFromRight_of_separated (value : Parameter → String) : ∀ rev : List Part,
    Segment.Fillable value rev.reverse → Segment.Separated value rev.reverse →
    fitFromRight none (Segment.filled value rev.reverse).toList rev =
      some (Segment.fitted value rev.reverse)
  | [], _, _ => rfl
  | .literal literal :: rev, hfillable, hseparated => by
    rw [List.reverse_cons] at hfillable hseparated ⊢
    have hliteral := hfillable.literals literal (by simp)
    have ih := fitFromRight_of_separated value rev hfillable.of_append hseparated.of_append
    rw [Segment.toList_filled_append, Segment.filled_literal, fitFromRight,
      beforeEnding?_append hliteral]
    dsimp only
    rw [ih, Segment.fitted_append_literal]
  | [.parameter p], hfillable, _ => by
    have hvalue := hfillable.values p (by simp)
    rw [List.reverse_singleton, Segment.filled_parameter, fitFromRight, fitFromRight, if_neg]
    · rfl
    · simpa using hvalue
  | .parameter p :: .literal literal :: rev, hfillable, hseparated => by
    rw [List.reverse_cons, List.reverse_cons] at hfillable hseparated ⊢
    have hliteral := hfillable.literals literal (by simp)
    have hvalue := hfillable.values p (by simp)
    obtain ⟨hseparated, hrecurs⟩ := (Segment.separated_append_parameter literal p).1 hseparated
    have ih := fitFromRight_of_separated value rev hfillable.of_append.of_append hseparated
    rw [Segment.toList_filled_append, Segment.toList_filled_append, Segment.filled_literal,
      Segment.filled_parameter, List.append_assoc, fitFromRight, fitFromRight,
      aroundLast?_of_not_recurs hliteral hvalue hrecurs]
    dsimp only
    rw [ih, Segment.fitted_append_parameter, Segment.fitted_append_literal]
    rfl
  | .parameter p :: .parameter q :: rev, hfillable, _ => by
    rw [List.reverse_cons, List.reverse_cons, List.append_assoc] at hfillable
    exact absurd (List.suffix_append _ _).isInfix (hfillable.apart q p)

/-- A filled segment is read back from the right only if no literal recurs. -/
theorem separated_of_fitFromRight (value : Parameter → String) : ∀ (rev : List Part)
    {found : List (Parameter × List Char)},
    Segment.Fillable value rev.reverse →
    fitFromRight none (Segment.filled value rev.reverse).toList rev = some found →
    (∀ x ∈ found, sameText (String.ofList x.2) (value x.1)) →
    Segment.Separated value rev.reverse
  | [], _, _, _, _ => Segment.separated_of_length_le (by simp)
  | .literal literal :: rev, found, hfillable, hfit, hsame => by
    rw [List.reverse_cons] at hfillable hfit ⊢
    have hliteral := hfillable.literals literal (by simp)
    rw [Segment.toList_filled_append, Segment.filled_literal, fitFromRight,
      beforeEnding?_append hliteral] at hfit
    rw [Segment.separated_append_literal]
    exact separated_of_fitFromRight value rev hfillable.of_append hfit hsame
  | [.parameter p], _, _, _, _ => Segment.separated_of_length_le (by simp)
  | .parameter p :: .literal literal :: rev, found, hfillable, hfit, hsame => by
    rw [List.reverse_cons, List.reverse_cons] at hfillable hfit ⊢
    have hliteral := hfillable.literals literal (by simp)
    have hvalue := hfillable.values p (by simp)
    rw [Segment.toList_filled_append, Segment.toList_filled_append, Segment.filled_literal,
      Segment.filled_parameter, List.append_assoc, fitFromRight, fitFromRight] at hfit
    split at hfit
    next before after haround =>
      obtain ⟨others, hothers, rfl⟩ := Option.map_eq_some_iff.1 hfit
      have hrecurs : recurs literal (value p) = false := by
        rw [Bool.eq_false_iff]
        intro hrecurs
        -- the value that is read is shorter than the one that was written
        have hlt := lt_of_recurs hliteral hrecurs haround
        have hsize := foldedSize_of_sameText (hsame (p, after) List.mem_cons_self)
        rw [String.toList_ofList] at hsize
        exact Nat.ne_of_lt hlt hsize
      rw [aroundLast?_of_not_recurs hliteral hvalue hrecurs] at haround
      cases haround
      refine (Segment.separated_append_parameter literal p).2 ⟨?_, hrecurs⟩
      exact separated_of_fitFromRight value rev hfillable.of_append.of_append hothers
        fun x hx => hsame x (List.mem_cons_of_mem _ hx)
    next => cases hfit
  | .parameter p :: .parameter q :: rev, _, hfillable, _, _ => by
    rw [List.reverse_cons, List.reverse_cons, List.append_assoc] at hfillable
    exact absurd (List.suffix_append _ _).isInfix (hfillable.apart q p)

variable {s : Segment}

theorem fitParts_of_separated (hfillable : s.Fillable value) (hseparated : s.Separated value) :
    fitParts s (s.filled value) = some (s.fitted value) := by
  have hfit := fitFromRight_of_separated value s.reverse
  rw [List.reverse_reverse] at hfit
  exact hfit hfillable hseparated

theorem separated_of_fitParts {found : List (Parameter × List Char)}
    (hfillable : s.Fillable value) (hfit : fitParts s (s.filled value) = some found)
    (hsame : ∀ x ∈ found, sameText (String.ofList x.2) (value x.1)) : s.Separated value := by
  have hseparated := @separated_of_fitFromRight value s.reverse found
  rw [List.reverse_reverse] at hseparated
  exact hseparated hfillable hfit hsame

/-- What is read from the right are values of the parameters, each once. -/
theorem map_fst_fitFromRight {open? : Option Parameter} {text : List Char} {rev : List Part}
    {found : List (Parameter × List Char)}
    (hapart : ∀ p q, ¬ [.parameter p, .parameter q] <:+: open?.toList.map Part.parameter ++ rev)
    (hfit : fitFromRight open? text rev = some found) :
    found.map Prod.fst = open?.toList ++ rev.filterMap Part.parameter? := by
  fun_induction fitFromRight open? text rev generalizing found with
  | case1 | case4 | case7 | case9 => cases hfit
  | case2 | case3 =>
    cases hfit
    rfl
  | case5 open? text p parts ih =>
    cases open? with
    | some q =>
      exact absurd (List.prefix_append [Part.parameter q, .parameter p] _).isInfix (hapart q p)
    | none => exact ih hapart hfit
  | case6 text literal parts p before after haround ih =>
    obtain ⟨others, hothers, rfl⟩ := Option.map_eq_some_iff.1 hfit
    rw [List.map_cons, ih (fun q q' hq => hapart q q' (hq.trans ?_)) hothers]
    · rfl
    · exact (List.suffix_append [.parameter p, .literal literal] parts).isInfix
  | case8 text literal parts before hbefore ih =>
    exact ih (fun q q' hq => hapart q q' (hq.trans (List.suffix_cons _ _).isInfix)) hfit

theorem map_fst_fitParts {text : String} {found : List (Parameter × List Char)}
    (hapart : ∀ p q, ¬ [.parameter p, .parameter q] <:+: s) (hfit : fitParts s text = some found) :
    found.map Prod.fst = (Segment.parameters s).reverse := by
  rw [map_fst_fitFromRight (fun p q hp => hapart q p ?_) hfit, Segment.parameters,
    ← List.filterMap_reverse]
  · rfl
  · exact List.reverse_infix.1 hp

end

end UrlRouting
