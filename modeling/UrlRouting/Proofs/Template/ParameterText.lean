import UrlRouting.Proofs.Template.Lexemes
import UrlRouting.Template.Reading

/-!
# Reading a parameter undoes rendering it

`Parameter.ReadFrom` says from which texts between braces a parameter is read. What is rendered
between the braces of a parameter is read as this parameter, that is, the parameter is
`Parameter.Legible`, provided that it is `Parameter.WellFormed`: no character of its name and of
its constraints ends them, no brace stands in it, and it is not mistaken for an optional one.
-/

namespace UrlRouting

/-- Whether a text holds neither `:` nor `=` outside of parentheses and closes all parentheses,
where `depth` of them are open before it. -/
def closes (depth : Nat) : List Char → Bool
  | [] => depth == 0
  | c :: cs =>
    !((c == ':' || c == '=') && depth == 0) &&
      closes (if c = '(' then depth + 1 else if c = ')' then depth - 1 else depth) cs

namespace Parameter

/-- The constraints and the default of a parameter as they are written. -/
def suffix (p : Parameter) : List Char :=
  p.constraints.flatMap (fun c => ':' :: c.text.toList) ++
    match p.default? with
    | some value => '=' :: value.toList
    | none => []

/-- What is written between the braces of a parameter. -/
def body (p : Parameter) : List Char :=
  (if p.isCatchAll then ['*'] else []) ++
    (p.name.toList ++ p.suffix ++ if p.isOptional then ['?'] else [])

/-- A parameter whose text is read as this parameter. -/
structure WellFormed (p : Parameter) : Prop where
  /-- It has a name. -/
  name : p.name ≠ ""
  /-- No character of the name ends it. -/
  delimiters : ∀ c ∈ p.name.toList, c ∉ nameDelimiters
  /-- Each constraint has some text, and no character of it ends it. -/
  constraints : ∀ c ∈ p.constraints, c.text ≠ "" ∧ closes 0 c.text.toList
  /-- No brace stands in a constraint or a default. -/
  braces : ∀ c ∈ p.suffix, Lexeme.brace? c = none
  /-- An optional parameter is no catch-all and has no default. -/
  optional : p.isOptional → p.isCatchAll = false ∧ p.default? = none
  /-- Only an optional parameter ends in a question mark (`isOptional_of_readParameter`). -/
  unmarked : p.isOptional = false → p.suffix.getLast? ≠ some '?'

theorem toList_render (p : Parameter) : p.render.toList = '\x7b' :: (p.body ++ ['\x7d']) := by
  obtain ⟨name, isCatchAll, isOptional, default?, constraints⟩ := p
  have hconstraints : (String.join (constraints.map fun c => ":" ++ c.text)).toList =
      constraints.flatMap fun c => ':' :: c.text.toList := by
    rw [String.toList_join, List.flatMap_map]
    exact List.flatMap_congr fun c _ => String.toList_append
  simp only [render, String.toList_append, hconstraints, body, suffix]
  cases isCatchAll <;> cases isOptional <;> cases default? <;> simp

end Parameter

theorem cutConstraint_append {depth : Nat} {text rest : List Char} (h : closes depth text)
    (hrest : ∀ c, rest.head? = some c → c = ':' ∨ c = '=') :
    cutConstraint depth (text ++ rest) = (text, rest) := by
  induction text generalizing depth with
  | nil =>
    obtain rfl : depth = 0 := by simpa [closes] using h
    cases rest with
    | nil => rfl
    | cons c rest => rw [List.nil_append, cutConstraint, if_pos ⟨hrest c rfl, rfl⟩]
  | cons c text ih =>
    simp only [closes, Bool.and_eq_true, Bool.not_eq_true', Bool.and_eq_false_iff,
      Bool.or_eq_false_iff, beq_eq_false_iff_ne] at h
    rw [List.cons_append, cutConstraint, if_neg]
    · dsimp only
      rw [ih h.2]
    · rintro ⟨hc, hdepth⟩
      rcases h.1 with hne | hne
      · exact hc.elim hne.1 hne.2
      · exact hne hdepth

/-- A constraint is followed by the end of the parameter or by what ends a constraint. -/
theorem head?_constraints (cs : List InlineConstraint) {rest : List Char}
    (hrest : ∀ c, rest.head? = some c → c = ':' ∨ c = '=') :
    ∀ c, (cs.flatMap (fun c => ':' :: c.text.toList) ++ rest).head? = some c →
      c = ':' ∨ c = '=' := by
  cases cs with
  | nil => exact hrest
  | cons c cs =>
    intro d hd
    exact Or.inl (Option.some.inj hd).symm

/-- Constraints are read as they are written. -/
theorem readTail_constraints {cs : List InlineConstraint} {rest : List Char}
    (h : ∀ c ∈ cs, c.text ≠ "" ∧ closes 0 c.text.toList)
    (hrest : ∀ c, rest.head? = some c → c = ':' ∨ c = '=') :
    readTail (cs.flatMap (fun c => ':' :: c.text.toList) ++ rest) =
      (cs ++ (readTail rest).1, (readTail rest).2) := by
  induction cs with
  | nil => rfl
  | cons c cs ih =>
    rw [List.forall_mem_cons] at h
    have hcut := cutConstraint_append h.1.2 (head?_constraints cs hrest)
    rw [List.flatMap_cons, List.append_assoc, List.cons_append, readTail, hcut, ih h.2]
    have hne : c.text.toList.isEmpty = false := by simpa using h.1.1
    simp [hne]

/-- What follows a name is empty, or it begins with a colon or an equals sign. -/
theorem Parameter.head?_suffix {p : Parameter} {c : Char} (h : p.suffix.head? = some c) :
    c = ':' ∨ c = '=' := by
  refine head?_constraints p.constraints (fun c hc => ?_) c h
  split at hc
  · exact Or.inr (Option.some.inj hc).symm
  · cases hc

/-- Constraints and a default are read as they are written. -/
theorem readTail_suffix {p : Parameter}
    (h : ∀ c ∈ p.constraints, c.text ≠ "" ∧ closes 0 c.text.toList) :
    readTail p.suffix = (p.constraints, p.default?) := by
  unfold Parameter.suffix
  cases p.default? with
  | none =>
    have hrest : ∀ c, [].head? = some c → c = ':' ∨ c = '=' := nofun
    rw [readTail_constraints h hrest]
    simp [readTail]
  | some value =>
    have hrest : ∀ c, ('=' :: value.toList).head? = some c → c = ':' ∨ c = '=' :=
      fun c hc => Or.inr (Option.some.inj hc).symm
    rw [readTail_constraints h hrest]
    simp [readTail]

/-! ### Reading the text between braces -/

/-- A parameter as it is read from the text `body` between its braces, where `rest` follows its
name. -/
structure Parameter.ReadFrom (p : Parameter) (body rest : List Char) : Prop where
  /-- A star stands before the name of a catch-all and a question mark at the end of an optional
  parameter. -/
  spelled : body = (if p.isCatchAll then ['*'] else []) ++
    (p.name.toList ++ rest ++ if p.isOptional then ['?'] else [])
  /-- It has a name. -/
  name : p.name ≠ ""
  /-- No character of the name ends it. -/
  delimiters : ∀ c ∈ p.name.toList, c ∉ nameDelimiters
  /-- The name ends where a constraint or a default begins. -/
  follows : ∀ c, rest.head? = some c → c = ':' ∨ c = '='
  /-- The constraints and the default are read from what follows the name. -/
  tail : readTail rest = (p.constraints, p.default?)
  /-- An optional parameter is no catch-all and has no default. -/
  optional : p.isOptional → p.isCatchAll = false ∧ p.default? = none
  /-- Only an optional parameter ends in a question mark. -/
  unmarked : p.isOptional = false → rest.getLast? ≠ some '?'

namespace Parameter.ReadFrom

variable {p : Parameter} {body rest : List Char}

/-- A name ends where a constraint or a default begins. -/
theorem span (h : p.ReadFrom body rest) :
    (p.name.toList ++ rest).takeWhile (fun c => c != ':' && c != '=') = p.name.toList ∧
    (p.name.toList ++ rest).dropWhile (fun c => c != ':' && c != '=') = rest := by
  have hname : ∀ c ∈ p.name.toList, (c != ':' && c != '=') = true := by
    intro c hc
    have hdelimiters := h.delimiters c hc
    rw [Bool.and_eq_true, bne_iff_ne, bne_iff_ne]
    constructor
    · rintro rfl
      exact hdelimiters (by decide)
    · rintro rfl
      exact hdelimiters (by decide)
  rw [List.takeWhile_append_of_pos hname, List.dropWhile_append_of_pos hname]
  cases hrest : rest with
  | nil => exact ⟨List.append_nil _, rfl⟩
  | cons c more =>
    have hc : (c != ':' && c != '=') = false := by
      rcases h.follows c (by rw [hrest]; rfl) with rfl | rfl <;> rfl
    rw [List.takeWhile_cons, List.dropWhile_cons, hc]
    exact ⟨List.append_nil _, rfl⟩

/-- Only the body of a catch-all begins with a star. -/
theorem head? (h : p.ReadFrom body rest) : (body.head? == some '*') = p.isCatchAll := by
  rw [h.spelled]
  cases p.isCatchAll with
  | true => rfl
  | false =>
    have hname : p.name.toList ≠ [] := fun hnil => h.name (String.toList_eq_nil_iff.1 hnil)
    obtain ⟨c, more, hcons⟩ := List.exists_cons_of_ne_nil hname
    rw [hcons]
    have hc : c ≠ '*' := by
      rintro rfl
      exact h.delimiters '*' (hcons ▸ List.mem_cons_self) (by decide)
    simpa using hc

/-- Only the body of an optional parameter ends in a question mark. -/
theorem getLast? (h : p.ReadFrom body rest) :
    ((p.name.toList ++ rest ++ if p.isOptional then ['?'] else []).getLast? == some '?') =
      p.isOptional := by
  cases hoptional : p.isOptional with
  | true => simp
  | false =>
    have hrest := h.unmarked hoptional
    rw [if_neg Bool.false_ne_true, List.append_nil, List.getLast?_append, beq_eq_false_iff_ne]
    cases hlast : rest.getLast? with
    | some c =>
      rw [hlast] at hrest
      exact hrest
    | none =>
      intro hname
      rw [Option.none_or] at hname
      exact h.delimiters '?' (List.mem_of_getLast? hname) (by decide)

/-- The text is read as this parameter. -/
theorem readParameter (h : p.ReadFrom body rest) (raw : String) :
    readParameter raw body = .ok p := by
  have hstrip : (if p.isCatchAll then body.tail else body) =
      p.name.toList ++ rest ++ if p.isOptional then ['?'] else [] := by
    rw [h.spelled]
    cases p.isCatchAll <;> rfl
  have hunmark : (if p.isOptional then
        (p.name.toList ++ rest ++ if p.isOptional then ['?'] else []).dropLast
      else p.name.toList ++ rest ++ if p.isOptional then ['?'] else []) =
      p.name.toList ++ rest := by
    cases p.isOptional with
    | true => exact List.dropLast_concat
    | false => exact List.append_nil _
  have hdelimiters : p.name.toList.any nameDelimiters.contains = false := by
    rw [List.any_eq_false]
    exact fun c hc hmem => h.delimiters c hc (List.contains_iff_mem.1 hmem)
  unfold UrlRouting.readParameter
  dsimp only
  rw [h.head?, hstrip, h.getLast?, hunmark, h.span.1, h.span.2, h.tail, String.ofList_toList,
    hdelimiters]
  have hname : p.name.isEmpty = false := by simpa using h.name
  have hcatchAll : (p.isCatchAll && p.isOptional) = false := by
    cases hoptional : p.isOptional with
    | false => exact Bool.and_false _
    | true => rw [(h.optional hoptional).1, Bool.false_and]
  have hdefault : (p.isOptional && p.default?.isSome) = false := by
    cases hoptional : p.isOptional with
    | false => exact Bool.false_and _
    | true =>
      rw [(h.optional hoptional).2]
      rfl
  rw [hname, hcatchAll, hdefault]
  rfl

end Parameter.ReadFrom

/-- What is read as a parameter is spelled like one. -/
theorem exists_readFrom {raw : String} {body : List Char} {p : Parameter}
    (h : readParameter raw body = .ok p) : ∃ rest, p.ReadFrom body rest := by
  -- The text is taken apart as the reader does: a star, a name with what follows it, a mark.
  have hstar : body = (if body.head? == some '*' then ['*'] else []) ++
      (if body.head? == some '*' then body.tail else body) := by
    by_cases hhead : body.head? = some '*'
    · obtain ⟨more, rfl⟩ := List.head?_eq_some_iff.1 hhead
      rfl
    · simp [hhead]
  have hmark (cs : List Char) : cs = (if cs.getLast? == some '?' then cs.dropLast else cs) ++
      if cs.getLast? == some '?' then ['?'] else [] := by
    by_cases hlast : cs.getLast? = some '?'
    · obtain ⟨front, rfl⟩ := List.getLast?_eq_some_iff.1 hlast
      simp
    · simp [hlast]
  unfold readParameter at h
  dsimp only at h
  generalize hcatchAll : (body.head? == some '*') = isCatchAll at h hstar
  generalize (if isCatchAll = true then body.tail else body) = stripped at h hstar
  have hstripped := hmark stripped
  have hunmarked : (stripped.getLast? == some '?') = false → stripped.getLast? ≠ some '?' :=
    fun hlast => by simpa using hlast
  generalize (stripped.getLast? == some '?') = isOptional at h hstripped hunmarked
  generalize (if isOptional = true then stripped.dropLast else stripped) = inner at h hstripped
  have hinner := List.takeWhile_append_dropWhile (p := fun c => c != ':' && c != '=') (l := inner)
  -- The four faults are ruled out in the order in which they are looked for.
  split at h
  · cases h
  next hname =>
    split at h
    · cases h
    next hdelimiters =>
      split at h
      · cases h
      next hoptionalCatchAll =>
        split at h
        · cases h
        next hoptionalDefault =>
          obtain rfl := Except.ok.inj h
          refine ⟨inner.dropWhile fun c => c != ':' && c != '=', ?_, ?_, ?_, ?_, rfl, ?_, ?_⟩
          · rw [String.toList_ofList, hinner]
            rw [hstripped] at hstar
            exact hstar
          · simpa using hname
          · intro c hc hmem
            exact hdelimiters (List.any_eq_true.2 ⟨c, hc, List.contains_iff_mem.2 hmem⟩)
          · intro c hc
            have hstop := List.head?_dropWhile_not (fun c => c != ':' && c != '=') inner
            rw [hc] at hstop
            simp at hstop
            tauto
          · intro hoptional
            simp only at hoptional
            subst hoptional
            simpa using And.intro hoptionalCatchAll hoptionalDefault
          · intro hoptional hlast
            simp only at hoptional
            subst hoptional
            refine hunmarked rfl ?_
            rw [hstripped, ← hinner, if_neg Bool.false_ne_true, List.append_nil,
              List.getLast?_append, hlast]
            rfl

/-- What ends in a question mark is read as an optional parameter, so that no other parameter can be
written with it. -/
theorem isOptional_of_readParameter {raw : String} {body : List Char} {p : Parameter}
    (h : readParameter raw body = .ok p) (hmark : body.getLast? = some '?') : p.isOptional := by
  obtain ⟨rest, hread⟩ := exists_readFrom h
  have hname : p.name.toList ≠ [] := fun hnil => hread.name (String.toList_eq_nil_iff.1 hnil)
  have hne : p.name.toList ++ rest ++ (if p.isOptional then ['?'] else []) ≠ [] := by
    simp [hname]
  rw [← hread.getLast?, beq_iff_eq, ← List.getLast?_append_of_ne_nil _ hne, ← hread.spelled]
  exact hmark

/-- A parameter whose text is read as this parameter is read from it. -/
theorem Parameter.WellFormed.readFrom {p : Parameter} (h : p.WellFormed) :
    p.ReadFrom p.body p.suffix where
  spelled := rfl
  name := h.name
  delimiters := h.delimiters
  follows := fun _ hc => p.head?_suffix hc
  tail := readTail_suffix h.constraints
  optional := h.optional
  unmarked := h.unmarked

/-! ### Legible parameters -/

/-- A parameter that is read from what is rendered for it. -/
structure Parameter.Legible (p : Parameter) : Prop where
  /-- No brace stands between its braces. -/
  braces : ∀ c ∈ p.body, Lexeme.brace? c = none
  /-- What stands between its braces is read as this parameter. -/
  read : ∀ raw, readParameter raw p.body = .ok p

/-- A parameter without braces in its constraints and its default is legible if its text may be read
as this parameter. -/
theorem Parameter.ReadFrom.legible {p : Parameter} (h : p.ReadFrom p.body p.suffix)
    (hbraces : ∀ c ∈ p.suffix, Lexeme.brace? c = none) : p.Legible where
  braces := by
    intro c hc
    have hmark {d : Char} (hd : Lexeme.brace? d = none) {b : Bool}
        (hmem : c ∈ if b then [d] else []) : Lexeme.brace? c = none := by
      split at hmem
      · rwa [List.mem_singleton.1 hmem]
      · cases hmem
    simp only [Parameter.body, List.mem_append] at hc
    rcases hc with hc | (hc | hc) | hc
    · exact hmark rfl hc
    · have hdelimiters := h.delimiters c hc
      have hleft : c ≠ '\x7b' := by
        rintro rfl
        exact hdelimiters (by decide)
      have hright : c ≠ '\x7d' := by
        rintro rfl
        exact hdelimiters (by decide)
      simp [Lexeme.brace?, hleft, hright]
    · exact hbraces c hc
    · exact hmark rfl hc
  read := h.readParameter

theorem Parameter.WellFormed.legible {p : Parameter} (h : p.WellFormed) : p.Legible :=
  h.readFrom.legible h.braces

end UrlRouting
