import UrlRouting.Proofs.RoutePattern.SeveralParts
import UrlRouting.Proofs.Template.Acceptance

/-!
# How a segment divides a piece of a path

A segment fits a piece if the piece can be cut into consecutive shares, one for each part, where a
literal takes itself up to case and a parameter takes something (`Segment.Divides`). The search from
the right tries only one way to cut. It is the way in which each literal starts furthest to the
right (`exists_divides_of_fitFromRight`), so that no other way has to be tried, with one exception:
a segment that begins with a literal is given up if this literal is found behind the beginning of
the piece (`exists_behind_of_fitFromRight`). All in all, a segment is fitted exactly if it divides
the piece and, where it begins with a literal, does not also divide what is left of the piece
without some of its first characters (`Segment.isSome_fitParts_iff`).
-/

namespace UrlRouting

open Text

/-! ### Shares -/

/-- Whether a part may take some characters: a literal takes itself up to case, a parameter takes
anything that is not empty. -/
def Part.MayTake : Part → List Char → Prop
  | .literal text, cs => sameText (String.ofList cs) text
  | .parameter _, cs => cs ≠ []

@[simp] theorem Part.mayTake_literal {literal : String} {cs : List Char} :
    (Part.literal literal).MayTake cs ↔ sameText (String.ofList cs) literal := Iff.rfl

@[simp] theorem Part.mayTake_parameter {p : Parameter} {cs : List Char} :
    (Part.parameter p).MayTake cs ↔ cs ≠ [] := Iff.rfl

instance (part : Part) (cs : List Char) : Decidable (part.MayTake cs) :=
  match part with
  | .literal text => inferInstanceAs (Decidable (sameText (String.ofList cs) text = true))
  | .parameter _ => inferInstanceAs (Decidable (cs ≠ []))

/-- Where the share at some position starts in the text. -/
def shareStart (shares : List (List Char)) (i : Nat) : Nat := (shares.take i).flatten.length

namespace Segment

/-- A text is cut into consecutive shares, one for each part of a segment in order. -/
structure Divides (s : Segment) (text : List Char) (shares : List (List Char)) : Prop where
  /-- Each part takes its share. -/
  taken : List.Forall₂ Part.MayTake s shares
  /-- The shares make up the text. -/
  whole : shares.flatten = text

instance (s : Segment) (text : List Char) (shares : List (List Char)) :
    Decidable (s.Divides text shares) :=
  decidable_of_iff (List.Forall₂ Part.MayTake s shares ∧ shares.flatten = text)
    ⟨fun h => ⟨h.1, h.2⟩, fun h => ⟨h.taken, h.whole⟩⟩

/-- Behind the first `n` characters of a text each literal starts at most where it starts in other
shares. -/
def StartsBy (s : Segment) (n : Nat) (shares shares' : List (List Char)) : Prop :=
  ∀ i literal, s[i]? = some (.literal literal) → n + shareStart shares i ≤ shareStart shares' i

/-- The parameters of a segment with their shares. -/
def named (s : Segment) (shares : List (List Char)) : List (Parameter × List Char) :=
  (s.zip shares).filterMap fun (part, share) => part.parameter?.map fun p => (p, share)

variable {s : Segment} {part : Part} {text : List Char} {shares shares' : List (List Char)}
  {share share' : List Char} {n : Nat}

theorem Divides.length_eq (h : s.Divides text shares) : shares.length = s.length :=
  h.taken.length_eq.symm

theorem divides_nil : Divides [] text shares ↔ text = [] ∧ shares = [] := by
  constructor
  · rintro ⟨htaken, rfl⟩
    cases htaken
    exact ⟨rfl, rfl⟩
  · rintro ⟨rfl, rfl⟩
    exact ⟨.nil, rfl⟩

theorem Divides.concat {front : List Char} (h : s.Divides front shares)
    (hshare : part.MayTake share) :
    Divides (s ++ [part]) (front ++ share) (shares ++ [share]) where
  taken := List.rel_append h.taken (.cons hshare .nil)
  whole := by simp [h.whole]

/-- The last share falls to the last part. -/
theorem Divides.exists_of_concat (h : Divides (s ++ [part]) text shares) :
    ∃ front share shares', text = front ++ share ∧ shares = shares' ++ [share] ∧
      s.Divides front shares' ∧ part.MayTake share := by
  obtain ⟨htaken, rfl⟩ := h
  have htaken := List.forall₂_reverse_iff.2 htaken
  rw [List.reverse_append, List.reverse_singleton, List.singleton_append,
    List.forall₂_cons_left_iff] at htaken
  obtain ⟨share, shares', hshare, hrest, hshares⟩ := htaken
  obtain rfl : shares = shares'.reverse ++ [share] := by
    rw [← List.reverse_cons, ← hshares, List.reverse_reverse]
  refine ⟨shares'.reverse.flatten, share, shares'.reverse, by simp, rfl, ⟨?_, rfl⟩, hshare⟩
  rwa [← List.forall₂_reverse_iff, List.reverse_reverse]

theorem shareStart_append {i : Nat} (h : i ≤ shares.length) :
    shareStart (shares ++ shares') i = shareStart shares i := by
  rw [shareStart, List.take_append_of_le_length h, shareStart]

theorem shareStart_length : shareStart shares shares.length = shares.flatten.length := by
  rw [shareStart, List.take_length]

/-- One more share at the end starts by where another one starts if the shares before it do, and if
it is the share of a literal what is before it is no longer. -/
theorem StartsBy.concat (h : s.StartsBy n shares shares') (hlength : shares.length = s.length)
    (hlength' : shares'.length = s.length)
    (hpart : ∀ literal, part = .literal literal →
      n + shares.flatten.length ≤ shares'.flatten.length) :
    StartsBy (s ++ [part]) n (shares ++ [share]) (shares' ++ [share']) := by
  intro i literal hi
  have hle : i ≤ s.length := by
    have := (List.getElem?_eq_some_iff.1 hi).1
    simp at this
    omega
  rw [shareStart_append (by omega), shareStart_append (by omega)]
  rcases Nat.lt_or_eq_of_le hle with hlt | rfl
  · rw [List.getElem?_append_left hlt] at hi
    exact h i literal hi
  · rw [List.getElem?_concat_length] at hi
    have hstart := hpart literal (Option.some.inj hi)
    rwa [← shareStart_length, ← shareStart_length, hlength, hlength'] at hstart

theorem named_concat (hlength : shares.length = s.length) :
    named (s ++ [part]) (shares ++ [share]) =
      named s shares ++ (part.parameter?.map fun p => (p, share)).toList := by
  rw [named, List.zip_append hlength.symm, List.filterMap_append]
  cases part <;> rfl

end Segment

/-! ### Searching from the right -/

/-- The parts that are still to be fitted from the right, with the open parameter right of them. -/
def partsUpTo (open? : Option Parameter) (rev : List Part) : Segment :=
  rev.reverse ++ open?.toList.map .parameter

section

variable {open? : Option Parameter} {text : List Char} {rev : List Part}

theorem partsUpTo_parameter (p : Parameter) (rev : List Part) :
    partsUpTo none (.parameter p :: rev) = partsUpTo (some p) rev := by
  simp [partsUpTo]

theorem partsUpTo_open (p : Parameter) (literal : String) (rev : List Part) :
    partsUpTo (some p) (.literal literal :: rev) =
      partsUpTo none rev ++ [.literal literal] ++ [.parameter p] := by
  simp [partsUpTo]

theorem partsUpTo_literal (literal : String) (rev : List Part) :
    partsUpTo none (.literal literal :: rev) = partsUpTo none rev ++ [.literal literal] := by
  simp [partsUpTo]

/-- The parts that are searched for from the right: no literal is empty, and literals and parameters
stand in turn, the open parameter included. -/
structure Searchable (open? : Option Parameter) (rev : List Part) : Prop where
  /-- Each literal has some text. -/
  literals : ∀ literal, .literal literal ∈ rev → literal ≠ ""
  /-- Literals and parameters stand in turn. -/
  inTurn : (open?.toList.map Part.parameter ++ rev).IsChain Part.DiffersFrom

theorem Searchable.openParameter {p : Parameter} (h : Searchable open? (.parameter p :: rev)) :
    open? = none ∧ Searchable (some p) rev := by
  cases open? with
  | none =>
    exact ⟨rfl, fun literal hmem => h.literals literal (List.mem_cons_of_mem _ hmem), h.inTurn⟩
  | some q => exact absurd (List.isChain_cons_cons.1 h.inTurn).1 id

theorem Searchable.tail {literal : String} (h : Searchable open? (.literal literal :: rev)) :
    Searchable none rev where
  literals := fun literal hmem => h.literals literal (List.mem_cons_of_mem _ hmem)
  inTurn := by
    have hturn := h.inTurn
    cases open? with
    | none => exact hturn.tail
    | some p => exact hturn.tail.tail

/-- Some shares of a part of a text: they begin behind the first characters `junk` and need not
reach the end, unless a literal is to stand there. -/
structure SharedWithin (open? : Option Parameter) (rev : List Part) (text junk part : List Char)
    (shares : List (List Char)) : Prop where
  /-- The shares make up a part of the text. -/
  divides : (partsUpTo open? rev).Divides part shares
  /-- The part stands behind `junk`. -/
  within : junk ++ part <+: text
  /-- A literal at the right end stands at the end of the text. -/
  atEnd : open? = none → ∀ literal rest, rev = .literal literal :: rest → junk ++ part = text

variable {junk part : List Char} {shares : List (List Char)}

theorem SharedWithin.openParameter {p : Parameter}
    (h : SharedWithin none (.parameter p :: rev) text junk part shares) :
    SharedWithin (some p) rev text junk part shares where
  divides := partsUpTo_parameter p rev ▸ h.divides
  within := h.within
  atEnd := nofun

/-- Wherever a literal stands with something for the parameter after it, it is found there or
further to the right. -/
theorem SharedWithin.around {p : Parameter} {literal : String}
    (hsearch : Searchable (some p) (.literal literal :: rev))
    (h : SharedWithin (some p) (.literal literal :: rev) text junk part shares) :
    ∃ before after, aroundLast? literal text = some (before, after) ∧
      ∃ front shares' share share', shares = shares' ++ [share] ++ [share'] ∧
        SharedWithin none rev before junk front shares' := by
  have hliteral := hsearch.literals literal List.mem_cons_self
  have hdivides := h.divides
  rw [partsUpTo_open] at hdivides
  obtain ⟨_, value, _, rfl, rfl, hdivides, hvalue⟩ := hdivides.exists_of_concat
  obtain ⟨front, middle, shares', rfl, rfl, hdivides, hmiddle⟩ := hdivides.exists_of_concat
  obtain ⟨rest, hrest⟩ := h.within
  have hstands : StandsIn literal text (junk ++ front) (value ++ rest) :=
    ⟨middle, by simp [← hrest], hmiddle⟩
  have hafter : value ++ rest ≠ [] := by simpa using fun hnil => absurd hnil hvalue
  obtain ⟨⟨before, after⟩, haround⟩ :=
    Option.isSome_iff_exists.1 (isSome_aroundLast? hliteral hstands hafter)
  refine ⟨before, after, haround, front, shares', middle, value, rfl, hdivides, ?_, ?_⟩
  · obtain ⟨⟨⟨middle', htext, -⟩, -⟩, hlast⟩ := (aroundLast?_eq_some hliteral).1 haround
    have hfront : junk ++ front <+: text := ⟨middle ++ (value ++ rest), by simp [← hrest]⟩
    have hbefore : before <+: text := ⟨middle' ++ after, htext.symm⟩
    exact List.prefix_of_prefix_length_le hfront hbefore (hlast _ _ hstands hafter)
  · -- no literal stands left of a literal
    rintro - literal' rest' rfl
    have hturn := hsearch.inTurn.tail
    exact absurd (List.isChain_cons_cons.1 hturn).1 id

/-- A literal at the end of a text is found where it stands. -/
theorem SharedWithin.beforeEnding {literal : String}
    (hsearch : Searchable none (.literal literal :: rev))
    (h : SharedWithin none (.literal literal :: rev) text junk part shares) :
    ∃ before, beforeEnding? literal text = some before ∧
      ∃ front shares' share, shares = shares' ++ [share] ∧
        SharedWithin none rev before junk front shares' ∧ junk ++ front = before := by
  have hliteral := hsearch.literals literal List.mem_cons_self
  have hdivides := h.divides
  have htext := h.atEnd rfl literal rev rfl
  rw [partsUpTo_literal] at hdivides
  obtain ⟨front, middle, shares', rfl, rfl, hdivides, hmiddle⟩ := hdivides.exists_of_concat
  rw [← List.append_assoc] at htext
  refine ⟨junk ++ front, (beforeEnding?_eq_some hliteral).2 ⟨middle, htext.symm, hmiddle⟩, front,
    shares', middle, rfl, ⟨hdivides, List.prefix_refl _, fun _ _ _ _ => rfl⟩, rfl⟩

/-- What the search finds are the shares of the parameters when the text is divided, and each
literal starts furthest to the right. -/
theorem exists_divides_of_fitFromRight {found : List (Parameter × List Char)}
    (hsearch : Searchable open? rev) (hfit : fitFromRight open? text rev = some found) :
    ∃ shares, (partsUpTo open? rev).Divides text shares ∧
      found = ((partsUpTo open? rev).named shares).reverse ∧
      ∀ junk part shares', SharedWithin open? rev text junk part shares' →
        (partsUpTo open? rev).StartsBy junk.length shares' shares := by
  fun_induction fitFromRight open? text rev generalizing found with
  | case1 | case4 | case7 | case9 => cases hfit
  | case2 text p htext =>
    obtain rfl := Option.some.inj hfit
    refine ⟨[text], ⟨.cons (by simpa using htext) .nil, by simp⟩, rfl, ?_⟩
    intro junk part shares' _ i literal hi
    cases i <;> simp [partsUpTo] at hi
  | case3 text htext =>
    obtain rfl := Option.some.inj hfit
    refine ⟨[], Segment.divides_nil.2 ⟨by simpa using htext, rfl⟩, rfl, ?_⟩
    intro junk part shares' _ i literal hi
    cases hi
  | case5 open? text p rev ih =>
    obtain ⟨rfl, hopen⟩ := hsearch.openParameter
    rw [partsUpTo_parameter]
    obtain ⟨shares, hdivides, hfound, hlast⟩ := ih hopen hfit
    exact ⟨shares, hdivides, hfound, fun junk part shares' h => hlast _ _ _ h.openParameter⟩
  | case6 text literal rev p before after haround ih =>
    obtain ⟨others, hothers, rfl⟩ := Option.map_eq_some_iff.1 hfit
    obtain ⟨shares, hdivides, rfl, hlast⟩ := ih hsearch.tail hothers
    obtain ⟨⟨⟨middle, rfl, hmiddle⟩, hafter⟩, -⟩ :=
      (aroundLast?_eq_some (hsearch.literals literal List.mem_cons_self)).1 haround
    have hlength := hdivides.length_eq
    rw [partsUpTo_open, ← List.append_assoc]
    refine ⟨shares ++ [middle] ++ [after],
      (hdivides.concat (Part.mayTake_literal.2 hmiddle)).concat (Part.mayTake_parameter.2 hafter),
      ?_, ?_⟩
    · rw [Segment.named_concat (by simp [hlength]), Segment.named_concat hlength]
      simp [Part.parameter?]
    · intro junk part shares' h
      obtain ⟨_, _, hfound, front, shares', share, share', rfl, hwithin⟩ := h.around hsearch
      rw [List.append_assoc, haround] at hfound
      cases hfound
      have hlength' := hwithin.divides.length_eq
      refine ((hlast _ _ _ hwithin).concat hlength' hlength fun _ _ => ?_).concat
        (by simp [hlength']) (by simp [hlength]) (by simp)
      rw [hwithin.divides.whole, hdivides.whole, ← List.length_append]
      exact hwithin.within.length_le
  | case8 text literal rev before hbefore ih =>
    obtain ⟨shares, hdivides, rfl, hlast⟩ := ih hsearch.tail hfit
    obtain ⟨middle, rfl, hmiddle⟩ :=
      (beforeEnding?_eq_some (hsearch.literals literal List.mem_cons_self)).1 hbefore
    have hlength := hdivides.length_eq
    rw [partsUpTo_literal]
    refine ⟨shares ++ [middle], hdivides.concat (Part.mayTake_literal.2 hmiddle), ?_, ?_⟩
    · rw [Segment.named_concat hlength]
      simp [Part.parameter?]
    · intro junk part shares' h
      obtain ⟨_, hfound, front, shares', share, rfl, hwithin, -⟩ := h.beforeEnding hsearch
      rw [hbefore] at hfound
      cases hfound
      refine (hlast _ _ _ hwithin).concat hwithin.divides.length_eq hlength fun _ _ => ?_
      rw [hwithin.divides.whole, hdivides.whole, ← List.length_append]
      exact hwithin.within.length_le

theorem head?_append_ne {s s' : Segment} (h : ∀ p, s.head? ≠ some (.parameter p))
    (h' : ∀ p, s'.head? ≠ some (.parameter p)) (p : Parameter) :
    (s ++ s').head? ≠ some (.parameter p) := by
  rw [List.head?_append]
  cases hfirst : s.head? with
  | none => simpa using h' p
  | some first => simpa [hfirst] using h p

/-- A search that fails although a part of the text can be divided has found the parts behind the
beginning of the text, and the first of them is a literal. -/
theorem exists_behind_of_fitFromRight (hsearch : Searchable open? rev)
    (hfit : fitFromRight open? text rev = none)
    (hwithin : SharedWithin open? rev text junk part shares) :
    ∃ front back shares', front ≠ [] ∧ text = front ++ back ∧
      (partsUpTo open? rev).Divides back shares' ∧
      ∀ p, (partsUpTo open? rev).head? ≠ some (.parameter p) := by
  fun_induction fitFromRight open? text rev generalizing junk part shares with
  | case2 | case3 => cases hfit
  | case1 text p htext =>
    -- the parameter cannot have taken anything
    obtain ⟨front, share, shares', rfl, -, -, hshare⟩ :=
      Segment.Divides.exists_of_concat (s := []) hwithin.divides
    have hnil := hwithin.within
    rw [List.isEmpty_iff.1 htext, List.prefix_nil] at hnil
    simp only [List.append_eq_nil_iff] at hnil
    exact absurd hnil.2.2 hshare
  | case4 text htext =>
    refine ⟨text, [], [], by simpa using htext, (List.append_nil _).symm, ?_, by simp [partsUpTo]⟩
    exact Segment.divides_nil.2 ⟨rfl, rfl⟩
  | case5 open? text p rev ih =>
    obtain ⟨rfl, hopen⟩ := hsearch.openParameter
    rw [partsUpTo_parameter]
    exact ih hopen hfit hwithin.openParameter
  | case6 text literal rev p before after haround ih =>
    obtain ⟨_, _, hfound, front, shares', share, share', -, hwithin⟩ := hwithin.around hsearch
    rw [haround] at hfound
    cases hfound
    obtain ⟨front, back, shares', hfront, rfl, hdivides, hhead⟩ :=
      ih hsearch.tail (by simpa using hfit) hwithin
    obtain ⟨⟨⟨middle, rfl, hmiddle⟩, hafter⟩, -⟩ :=
      (aroundLast?_eq_some (hsearch.literals literal List.mem_cons_self)).1 haround
    rw [partsUpTo_open]
    refine ⟨front, back ++ middle ++ after, shares' ++ [middle] ++ [after], hfront, by simp,
      (hdivides.concat (Part.mayTake_literal.2 hmiddle)).concat (Part.mayTake_parameter.2 hafter),
      fun q => ?_⟩
    rw [List.append_assoc]
    exact head?_append_ne hhead (by simp) q
  | case7 text literal rev p hnone =>
    obtain ⟨_, _, hfound, -⟩ := hwithin.around hsearch
    rw [hnone] at hfound
    cases hfound
  | case8 text literal rev before hbefore ih =>
    obtain ⟨_, hfound, front, shares', share, -, hwithin, -⟩ := hwithin.beforeEnding hsearch
    rw [hbefore] at hfound
    cases hfound
    obtain ⟨front, back, shares', hfront, rfl, hdivides, hhead⟩ := ih hsearch.tail hfit hwithin
    obtain ⟨middle, rfl, hmiddle⟩ :=
      (beforeEnding?_eq_some (hsearch.literals literal List.mem_cons_self)).1 hbefore
    rw [partsUpTo_literal]
    exact ⟨front, back ++ middle, shares' ++ [middle], hfront, by simp,
      hdivides.concat (Part.mayTake_literal.2 hmiddle), head?_append_ne hhead (by simp)⟩
  | case9 text literal rev hnone =>
    obtain ⟨_, hfound, -⟩ := hwithin.beforeEnding hsearch
    rw [hnone] at hfound
    cases hfound

end

/-! ### Segments -/

namespace Segment

variable {s : Segment} {text : String}

/-- The parts of a segment as reading makes it can be searched for. -/
theorem Accepted.searchable (h : s.Accepted) : Searchable none s.reverse where
  literals literal hmem := (h.literals literal (List.mem_reverse.1 hmem)).1
  inTurn := by
    rw [Option.toList_none, List.map_nil, List.nil_append, List.isChain_reverse]
    refine h.inTurn.imp fun part part' hdiffers => ?_
    cases part <;> cases part' <;> exact hdiffers

theorem partsUpTo_reverse (s : Segment) : partsUpTo none s.reverse = s := by
  simp [partsUpTo]

/-- A segment divides a text in some way. -/
def Fits (s : Segment) (text : List Char) : Prop := ∃ shares, s.Divides text shares

theorem sharedWithin {part junk : List Char} {shares : List (List Char)}
    (h : s.Divides part shares) (htext : junk ++ part = text.toList) :
    SharedWithin none s.reverse text.toList junk part shares where
  divides := by rwa [partsUpTo_reverse]
  within := htext ▸ List.prefix_refl _
  atEnd := fun _ _ _ _ => htext

end Segment

/-- **A segment is fitted exactly if it fits**, in whatever way, and does not also fit the piece
without some of its first characters when it begins with a literal. -/
theorem Segment.isSome_fitParts_iff {text : String} {t : Template}
    (hparse : Template.parse text = .ok t) {s : Segment} (hs : s ∈ t.segments) (piece : String) :
    (fitParts s piece).isSome ↔ s.Fits piece.toList ∧
      ∀ literal, s.head? = some (.literal literal) →
        ∀ front back, piece.toList = front ++ back → s.Fits back → front = [] := by
  obtain ⟨ls, hread⟩ := Template.exists_readFrom_of_parse hparse hs
  have haccepted := hread.accepted
  have hsearch := haccepted.searchable
  constructor
  · intro h
    obtain ⟨found, hfound⟩ := Option.isSome_iff_exists.1 h
    obtain ⟨shares, hdivides, -, hlast⟩ := exists_divides_of_fitFromRight hsearch hfound
    rw [partsUpTo_reverse] at hdivides hlast
    refine ⟨⟨shares, hdivides⟩, fun literal hliteral front back hpiece hback => ?_⟩
    obtain ⟨shares', hback⟩ := hback
    -- the first literal starts with the piece, and no literal starts further to the right
    have hstart := hlast _ _ _ (sharedWithin hback hpiece.symm) 0 literal
      (by rw [← hliteral, List.head?_eq_getElem?])
    simpa [shareStart] using hstart
  · rintro ⟨⟨shares, hdivides⟩, hfirst⟩
    by_contra hnone
    obtain ⟨front, back, shares', hfront, hpiece, hback, hhead⟩ :=
      exists_behind_of_fitFromRight hsearch (Option.not_isSome_iff_eq_none.1 hnone)
        (sharedWithin hdivides (List.nil_append _))
    rw [partsUpTo_reverse] at hback hhead
    obtain ⟨first, hhead'⟩ : ∃ first, s.head? = some first :=
      Option.isSome_iff_exists.1 (by simpa using haccepted.nonEmpty)
    cases first with
    | literal literal => exact hfront (hfirst literal hhead' front back hpiece ⟨shares', hback⟩)
    | parameter p => exact hhead p hhead'

/-- The template `files/{name}.{ext}` fits a piece in two ways, and it is fitted. -/
theorem Segment.isSome_fitParts_iff_sample :
    ∃ t s, Template.parse "files/\x7bname\x7d.\x7bext\x7d" = .ok t ∧ s ∈ t.segments ∧
      s.Divides "report.final.pdf".toList ["report".toList, ['.'], "final.pdf".toList] ∧
      (fitParts s "report.final.pdf").isSome := by
  let s : Segment := [.parameter { name := "name" }, .literal ".", .parameter { name := "ext" }]
  have hparse : Template.parse "files/\x7bname\x7d.\x7bext\x7d" =
      .ok { text := "files/\x7bname\x7d.\x7bext\x7d", segments := [[.literal "files"], s] } := by
    decide +kernel
  have hdivides : s.Divides "report.final.pdf".toList
      ["report".toList, ['.'], "final.pdf".toList] := by
    decide +kernel
  refine ⟨_, s, hparse, by simp, hdivides, ?_⟩
  exact (Segment.isSome_fitParts_iff hparse (by simp) _).2 ⟨⟨_, hdivides⟩, nofun⟩

/-- The literal `a` of `a{x}` is found behind the first character of `aab`, and then nothing is left
for this character. -/
theorem Segment.fits_and_is_not_fitted :
    ∃ t s, Template.parse "a\x7bx\x7d" = .ok t ∧ s ∈ t.segments ∧
      s.Divides "aab".toList [['a'], ['a', 'b']] ∧ fitParts s "aab" = none := by
  let s : Segment := [.literal "a", .parameter { name := "x" }]
  have hparse : Template.parse "a\x7bx\x7d" = .ok { text := "a\x7bx\x7d", segments := [s] } := by
    decide +kernel
  exact ⟨_, s, hparse, by simp, by decide +kernel, by decide +kernel⟩

end UrlRouting
