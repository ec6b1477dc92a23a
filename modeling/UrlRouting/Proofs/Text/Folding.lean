import Mathlib.Algebra.GroupWithZero.Nat
import UrlRouting.Proofs.Text.LowerCase
import UrlRouting.Text.Folding

/-!
# Equality up to case is equality of folded forms

`sameText` compares ASCII letters first, as a shortcut. Here it is shown that the shortcut adds
nothing: texts that differ only in the case of ASCII letters have one folded form
(`fold_eq_of_sameAscii`), so `sameText` is the equality of folded forms (`sameText_iff`). A folded
form is its own folded form (`fold_fold`), and how long it is depends on the characters alone and
not on their order (`length_foldAfter`).
-/

namespace UrlRouting.Text

/-! ### The case of ASCII letters -/

/-- A property of characters that lowering ASCII letters does not change has to be checked on the
capital letters only. -/
theorem toLower_invariant {β : Type} (f : Char → β)
    (h : ∀ n < 26, f (Char.ofNat (n + 65)).toLower = f (Char.ofNat (n + 65))) (c : Char) :
    f c.toLower = f c := by
  by_cases hc : 65 ≤ c.toNat ∧ c.toNat ≤ 90
  · have hn := h (c.toNat - 65) (by omega)
    rwa [Nat.sub_add_cancel hc.1, Char.ofNat_toNat] at hn
  · have : c.toLower = c := by
      unfold Char.toLower
      refine dif_neg fun h => hc ?_
      exact ⟨UInt32.le_iff_toNat_le.1 h.1, UInt32.le_iff_toNat_le.1 h.2⟩
    rw [this]

theorem isCased_toLower (c : Char) : isCased c.toLower = isCased c :=
  toLower_invariant isCased (by decide) c

/-- Case ignores no ASCII letter. -/
theorem isCaseIgnorable_letter {c : Char}
    (h : 65 ≤ c.toNat ∧ c.toNat ≤ 90 ∨ 97 ≤ c.toNat ∧ c.toNat ≤ 122) :
    isCaseIgnorable c = false := by
  have hranges : ∀ r ∈ caseIgnorableRanges, r.2 < 65 ∨ 122 < r.1 ∨ 90 < r.1 ∧ r.2 < 97 := by
    decide +kernel
  refine Bool.eq_false_iff.2 fun hmem => ?_
  obtain ⟨r, hr, hcontains⟩ := List.any_eq_true.1 hmem
  simp only [Bool.and_eq_true, decide_eq_true_eq] at hcontains
  have hr' := hranges r hr
  omega

theorem isCaseIgnorable_toLower (c : Char) : isCaseIgnorable c.toLower = isCaseIgnorable c := by
  refine toLower_invariant isCaseIgnorable (fun n hn => ?_) c
  have hletters : ∀ n < 26, (Char.ofNat (n + 65)).toNat = n + 65 ∧
      (Char.ofNat (n + 65)).toLower.toNat = n + 97 := by
    decide
  obtain ⟨hcapital, hsmall⟩ := hletters n hn
  have hcapital' : isCaseIgnorable (Char.ofNat (n + 65)) = false :=
    isCaseIgnorable_letter (by omega)
  have hsmall' : isCaseIgnorable (Char.ofNat (n + 65)).toLower = false :=
    isCaseIgnorable_letter (by omega)
  rw [hcapital', hsmall']

theorem reachesCased_toLower (cs : List Char) :
    reachesCased (cs.map Char.toLower) = reachesCased cs := by
  induction cs with
  | nil => rfl
  | cons c cs ih =>
    by_cases hc : isCaseIgnorable c
    · simpa [reachesCased, isCaseIgnorable_toLower, hc] using ih
    · simp [reachesCased, isCaseIgnorable_toLower, hc, isCased_toLower]

theorem endsWord_toLower (before after : List Char) :
    endsWord (before.map Char.toLower) (after.map Char.toLower) = endsWord before after := by
  simp only [endsWord, reachesCased_toLower]

/-- The folding of a character does not see the case of the ASCII characters around it. -/
theorem foldChar_toLower (before : List Char) (c : Char) (after : List Char) :
    foldChar (before.map Char.toLower) c.toLower (after.map Char.toLower)
      = foldChar before c after := by
  have hsigma : (c.toLower = 'Σ') = (c = 'Σ') :=
    toLower_invariant (· = 'Σ') (by decide) c
  have hdot : (c.toLower = 'İ') = (c = 'İ') := toLower_invariant (· = 'İ') (by decide) c
  have hlower : lowerChar c.toLower = lowerChar c :=
    toLower_invariant lowerChar (by decide) c
  simp only [foldChar, endsWord_toLower, hsigma, hdot, hlower]

theorem foldAfter_toLower (before cs : List Char) :
    foldAfter (before.map Char.toLower) (cs.map Char.toLower) = foldAfter before cs := by
  induction cs generalizing before with
  | nil => rfl
  | cons c cs ih =>
    simp only [List.map_cons, foldAfter, foldChar_toLower]
    rw [← ih (c :: before), List.map_cons]

/-- Texts that differ only in the case of ASCII letters have one folded form. -/
theorem fold_eq_of_sameAscii {a b : String} (h : sameAscii a b) : fold a = fold b := by
  have h : a.toList.map Char.toLower = b.toList.map Char.toLower := by simpa [sameAscii] using h
  unfold fold
  rw [← foldAfter_toLower [] a.toList, h, foldAfter_toLower]

/-- Texts are equal up to case if and only if their folded forms are equal. -/
theorem sameText_iff {a b : String} : sameText a b ↔ fold a = fold b := by
  unfold sameText
  simp only [Bool.or_eq_true, beq_iff_eq]
  exact or_iff_right_of_imp fold_eq_of_sameAscii

/-! ### Folding twice -/

/-- A folded character is in lower case, and it is not the dotted capital. -/
theorem mem_foldChar {before after : List Char} {c d : Char} (h : d ∈ foldChar before c after) :
    lowerChar d = d ∧ d ≠ 'İ' := by
  unfold foldChar at h
  split at h
  next =>
    rw [List.mem_singleton.1 h]
    split <;> decide
  next =>
    split at h
    next =>
      simp only [List.mem_cons, List.not_mem_nil, or_false] at h
      rcases h with rfl | rfl <;> decide
    next hdot =>
      rw [List.mem_singleton.1 h]
      exact ⟨lowerChar_lowerChar c, fun heq => hdot (eq_of_lowerChar heq)⟩

theorem mem_foldAfter {before cs : List Char} {d : Char} (h : d ∈ foldAfter before cs) :
    lowerChar d = d ∧ d ≠ 'İ' := by
  induction cs generalizing before with
  | nil => cases h
  | cons c cs ih =>
    rcases List.mem_append.1 h with h | h
    · exact mem_foldChar h
    · exact ih h

/-- Characters in lower case are folded to themselves. -/
theorem foldAfter_eq_self {before cs : List Char} (h : ∀ c ∈ cs, lowerChar c = c ∧ c ≠ 'İ') :
    foldAfter before cs = cs := by
  induction cs generalizing before with
  | nil => rfl
  | cons c cs ih =>
    obtain ⟨hlower, hdot⟩ := h c List.mem_cons_self
    have hsigma : c ≠ 'Σ' := hlower ▸ lowerChar_ne_sigma c
    rw [foldAfter, ih fun c' hc' => h c' (List.mem_cons_of_mem _ hc'), foldChar, if_neg hsigma,
      if_neg hdot, hlower]
    rfl

/-- A folded form is its own folded form. -/
theorem fold_fold (s : String) : fold (fold s) = fold s := by
  rw [fold, toList_fold, foldAfter_eq_self fun _ => mem_foldAfter, fold]

/-! ### The length of a folded form -/

/-- How many characters a character is folded to. -/
def foldedLength (c : Char) : Nat := if c = 'İ' then 2 else 1

/-- How many characters some characters are folded to. -/
def foldedSize (cs : List Char) : Nat := (cs.map foldedLength).sum

theorem foldedLength_pos (c : Char) : 0 < foldedLength c := by
  unfold foldedLength
  split <;> decide

@[simp] theorem foldedSize_append (cs cs' : List Char) :
    foldedSize (cs ++ cs') = foldedSize cs + foldedSize cs' := by
  simp [foldedSize]

theorem foldedSize_pos {cs : List Char} (h : cs ≠ []) : 0 < foldedSize cs := by
  cases cs with
  | nil => exact absurd rfl h
  | cons c cs => exact Nat.add_pos_left (foldedLength_pos c) _

theorem length_foldChar (before : List Char) (c : Char) (after : List Char) :
    (foldChar before c after).length = foldedLength c := by
  unfold foldChar foldedLength
  by_cases hsigma : c = 'Σ'
  · subst hsigma
    rfl
  · rw [if_neg hsigma]
    split <;> rfl

/-- How long a folded form is depends on the characters alone, not on those around them. -/
theorem length_foldAfter (before cs : List Char) :
    (foldAfter before cs).length = foldedSize cs := by
  induction cs generalizing before with
  | nil => rfl
  | cons c cs ih =>
    rw [foldAfter, List.length_append, length_foldChar, ih]
    rfl

theorem foldedSize_of_sameText {a b : String} (h : sameText a b) :
    foldedSize a.toList = foldedSize b.toList := by
  rw [← length_foldAfter [], ← length_foldAfter [], ← toList_fold, ← toList_fold,
    sameText_iff.1 h]

/-- A literal that is not empty is not equal to the empty text up to case. -/
theorem ne_nil_of_sameText {cs : List Char} {literal : String} (hliteral : literal ≠ "")
    (h : sameText (String.ofList cs) literal) : cs ≠ [] := by
  rintro rfl
  have hsize := foldedSize_of_sameText h
  have hpos := foldedSize_pos fun hnil => hliteral (String.toList_eq_nil_iff.1 hnil)
  rw [← hsize] at hpos
  cases hpos

/-- No characters are folded to nothing. -/
theorem eq_nil_of_foldedSize {cs : List Char} (h : foldedSize cs = 0) : cs = [] := by
  by_contra hne
  exact absurd h (Nat.pos_iff_ne_zero.1 (foldedSize_pos hne))

/-- Two beginnings of a text that are equal up to case are one. -/
theorem beginning_unique {front back front' back' : List Char} {literal : String}
    (htext : front ++ back = front' ++ back') (h : sameText (String.ofList front) literal)
    (h' : sameText (String.ofList front') literal) : front = front' ∧ back = back' := by
  have hsize := foldedSize_of_sameText h
  rw [← foldedSize_of_sameText h', String.toList_ofList, String.toList_ofList] at hsize
  -- what one beginning has more than the other one is folded to nothing
  rcases List.append_eq_append_iff.1 htext with ⟨more, rfl, rfl⟩ | ⟨more, rfl, rfl⟩
  · rw [foldedSize_append, Nat.left_eq_add] at hsize
    rw [eq_nil_of_foldedSize hsize]
    simp
  · rw [foldedSize_append, Nat.add_eq_left] at hsize
    rw [eq_nil_of_foldedSize hsize]
    simp

/-- Two endings of a text that are equal up to case are one. -/
theorem ending_unique {front back front' back' : List Char} {literal : String}
    (htext : front ++ back = front' ++ back') (h : sameText (String.ofList back) literal)
    (h' : sameText (String.ofList back') literal) : front = front' ∧ back = back' := by
  have hsize := foldedSize_of_sameText h
  rw [← foldedSize_of_sameText h', String.toList_ofList, String.toList_ofList] at hsize
  rcases List.append_eq_append_iff.1 htext with ⟨more, rfl, rfl⟩ | ⟨more, rfl, rfl⟩
  · rw [foldedSize_append, Nat.add_eq_right] at hsize
    rw [eq_nil_of_foldedSize hsize]
    simp
  · rw [foldedSize_append, Nat.right_eq_add] at hsize
    rw [eq_nil_of_foldedSize hsize]
    simp

end UrlRouting.Text
