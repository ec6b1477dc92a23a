import Mathlib.Data.List.Pairwise
import Mathlib.Data.List.TakeWhile
import UrlRouting.Text.LowerCase

/-!
# Lower-case letters have no lower-case letter but themselves

The runs of the case table ascend and do not overlap, and the lower-case letters of a run stand in
the gaps between the runs. So looking up a lower-case letter finds no run (`lowerCode_lowerCode`),
and lowering a character twice is lowering it once (`lowerChar_lowerChar`).
-/

namespace UrlRouting.Text

/-! ### Runs -/

namespace CaseBand

/-- Where a run has ended. -/
def stop (b : CaseBand) : Nat := b.first + b.count * b.step

theorem contains_iff {b : CaseBand} {n : Nat} :
    b.contains n ↔ b.first ≤ n ∧ n < b.stop ∧ (n - b.first) % b.step = 0 := by
  simp [contains, stop, and_assoc]

/-- The code points of a run by their places. -/
theorem exists_place {b : CaseBand} {n : Nat} (h : b.contains n) :
    ∃ k < b.count, n = b.first + k * b.step := by
  obtain ⟨hfirst, hstop, hmod⟩ := contains_iff.1 h
  obtain ⟨k, hk⟩ := Nat.dvd_of_mod_eq_zero hmod
  refine ⟨k, ?_, by rw [Nat.mul_comm]; omega⟩
  have hlt : b.step * k < b.step * b.count := by
    rw [Nat.mul_comm b.step b.count]
    unfold stop at hstop
    omega
  exact Nat.lt_of_mul_lt_mul_left hlt

/-- The lower-case letters of a run lie between those of its ends. -/
theorem lower_mem {b : CaseBand} {n : Nat} (h : b.contains n) :
    b.lower b.first ≤ b.lower n ∧ b.lower n ≤ b.lower (b.stop - b.step) := by
  obtain ⟨k, hk, rfl⟩ := exists_place h
  have hle : k * b.step + b.step ≤ b.count * b.step := by
    rw [← Nat.succ_mul]
    exact Nat.mul_le_mul_right _ hk
  unfold lower stop
  omega

/-- A run has ended where another one begins. -/
def Precedes (b b' : CaseBand) : Prop := b.stop ≤ b'.first

instance : DecidableRel Precedes := fun b b' => inferInstanceAs (Decidable (b.stop ≤ b'.first))

theorem first_le_stop (b : CaseBand) : b.first ≤ b.stop := Nat.le_add_right _ _

instance : Trans Precedes Precedes Precedes where
  trans {_ b _} h h' := Nat.le_trans h (Nat.le_trans b.first_le_stop h')

end CaseBand

/-- The runs ascend, and none reaches into the next one. -/
theorem caseBands_ascend : caseBands.Pairwise CaseBand.Precedes := by
  rw [← List.isChain_iff_pairwise]
  decide +kernel

/-- No code point between those of a run belongs to another one. -/
theorem eq_of_contains {b b' : CaseBand} (hb : b ∈ caseBands) (hb' : b' ∈ caseBands) {n : Nat}
    (hfirst : b.first ≤ n) (hstop : n < b.stop) (h : b'.contains n) : b' = b := by
  by_contra hne
  have : Std.Symm fun b b' : CaseBand => b.Precedes b' ∨ b'.Precedes b := ⟨fun _ _ => Or.symm⟩
  have hapart : caseBands.Pairwise fun b b' => b.Precedes b' ∨ b'.Precedes b :=
    caseBands_ascend.imp Or.inl
  obtain ⟨hfirst', hstop', -⟩ := CaseBand.contains_iff.1 h
  rcases hapart.forall hb' hb hne with h | h <;> unfold CaseBand.Precedes at h <;> omega

/-- Whether no run reaches into an interval of code points. -/
def isGap (low high : Nat) : Bool :=
  (caseBands.dropWhile fun b => b.stop ≤ low).head?.all fun b => high < b.first

theorem contains_of_isGap {low high n : Nat} (h : isGap low high) (hlow : low ≤ n)
    (hhigh : n ≤ high) {b : CaseBand} (hb : b ∈ caseBands) : b.contains n = false := by
  refine Bool.eq_false_iff.2 fun hn => ?_
  obtain ⟨hfirst, hstop, -⟩ := CaseBand.contains_iff.1 hn
  have hpairs := caseBands_ascend
  rw [← List.takeWhile_append_dropWhile (p := fun b => b.stop ≤ low) (l := caseBands)] at hb hpairs
  rcases List.mem_append.1 hb with hb | hb
  · have hbefore := List.mem_takeWhile_imp hb
    simp only [decide_eq_true_eq] at hbefore
    omega
  · -- the first run behind the interval comes before all others
    unfold isGap at h
    have hrest := (List.pairwise_append.1 hpairs).2.1
    cases hdrop : caseBands.dropWhile fun b => b.stop ≤ low with
    | nil => rw [hdrop] at hb; cases hb
    | cons b' rest =>
      rw [hdrop] at h hb hrest
      simp only [List.head?_cons, Option.all_some, decide_eq_true_eq] at h
      rcases List.mem_cons.1 hb with rfl | hb
      · omega
      · have hprecedes := List.rel_of_pairwise_cons hrest hb
        unfold CaseBand.Precedes at hprecedes
        have hle := b'.first_le_stop
        omega

/-! ### The table -/

/-- The lower-case letters of a run stand between its own code points, or in a gap between the runs,
or they are apart from each run. -/
theorem lower_apart : ∀ b ∈ caseBands, b.step = 2 ∧ b.shift = 1 ∨
    isGap (b.lower b.first) (b.lower (b.stop - b.step)) ∨
    ∀ k < b.count, ∀ b' ∈ caseBands, b'.contains (b.lower (b.first + k * b.step)) = false := by
  decide +kernel

/-- A lower-case letter belongs to no run. -/
theorem contains_lower {b b' : CaseBand} (hb : b ∈ caseBands) (hb' : b' ∈ caseBands) {n : Nat}
    (h : b.contains n) : b'.contains (b.lower n) = false := by
  obtain ⟨hfirst, hstop, hmod⟩ := CaseBand.contains_iff.1 h
  rcases lower_apart b hb with ⟨hstep, hone⟩ | hgap | hapart
  · -- the lower-case letter is the next code point, and the one after that is in the run again
    refine Bool.eq_false_iff.2 fun hcontains => ?_
    have hlower : b.lower n = n + 1 := by unfold CaseBand.lower; omega
    rw [hlower] at hcontains
    unfold CaseBand.stop at hstop
    obtain rfl := eq_of_contains hb hb' (n := n + 1) (by omega)
      (by unfold CaseBand.stop; rw [hstep] at hstop hmod ⊢; omega) hcontains
    have hmod' := (CaseBand.contains_iff.1 hcontains).2.2
    rw [hstep] at hmod hmod'
    omega
  · obtain ⟨hlow, hhigh⟩ := CaseBand.lower_mem h
    exact contains_of_isGap hgap hlow hhigh hb'
  · obtain ⟨k, hk, rfl⟩ := CaseBand.exists_place h
    exact hapart k hk b' hb'

/-- No run has the lower-case letter of a code point. -/
theorem find?_lowerCode (n : Nat) : caseBands.find? (·.contains (lowerCode n)) = none := by
  unfold lowerCode
  split
  next b hb =>
    rw [List.find?_eq_none]
    intro b' hb'
    rw [contains_lower (List.mem_of_find?_eq_some hb) hb' (by simpa using List.find?_some hb)]
    exact Bool.false_ne_true
  next hnone => exact hnone

theorem lowerCode_lowerCode (n : Nat) : lowerCode (lowerCode n) = lowerCode n := by
  rw [lowerCode, find?_lowerCode]

/-- The letters of a run do not stand on both sides of the dotted capital. -/
theorem lower_dotted : ∀ b ∈ caseBands,
    b.lower (b.stop - b.step) < 'İ'.toNat ∨ 'İ'.toNat < b.lower b.first := by
  decide +kernel

/-- No run has the dotted capital as a lower-case letter. -/
theorem eq_of_lowerCode {n : Nat} (h : lowerCode n = 'İ'.toNat) : n = 'İ'.toNat := by
  unfold lowerCode at h
  split at h
  next b hb =>
    have hmem := List.mem_of_find?_eq_some hb
    have hcontains : b.contains n := by simpa using List.find?_some hb
    obtain ⟨hlow, hhigh⟩ := CaseBand.lower_mem hcontains
    rw [h] at hlow hhigh
    rcases lower_dotted b hmem with hlt | hlt <;> omega
  next => exact h

/-! ### Characters -/

/-- The character of a number is that of the number or, if the number is no code point, of zero. -/
theorem toNat_ofNat_cases (n : Nat) : (Char.ofNat n).toNat = n ∨ Char.ofNat n = '\x00' := by
  unfold Char.ofNat
  by_cases h : n.isValidChar
  · rw [dif_pos h]
    exact Or.inl rfl
  · rw [dif_neg h]
    exact Or.inr rfl

theorem toLower_of_lowerCode {c : Char} (h : lowerCode c.toNat = c.toNat) : c.toLower = c := by
  unfold Char.toLower
  refine dif_neg fun hcapital => ?_
  have hcapitals : ∀ n < 26, lowerCode (n + 65) ≠ n + 65 := by decide
  have hlow : 65 ≤ c.toNat := UInt32.le_iff_toNat_le.1 hcapital.1
  have hhigh : c.toNat ≤ 90 := UInt32.le_iff_toNat_le.1 hcapital.2
  refine hcapitals (c.toNat - 65) (by omega) ?_
  rwa [Nat.sub_add_cancel hlow]

theorem lowerChar_of_lowerCode {c : Char} (h : lowerCode c.toNat = c.toNat) : lowerChar c = c := by
  unfold lowerChar
  split
  · exact toLower_of_lowerCode h
  · rw [h, Char.ofNat_toNat]

/-- Lowering a character twice is lowering it once. -/
theorem lowerChar_lowerChar (c : Char) : lowerChar (lowerChar c) = lowerChar c := by
  by_cases hc : c.toNat < 0x80
  · have hascii : ∀ n < 0x80, lowerChar (lowerChar (Char.ofNat n)) = lowerChar (Char.ofNat n) := by
      decide
    simpa using hascii c.toNat hc
  · rw [show lowerChar c = Char.ofNat (lowerCode c.toNat) from if_neg hc]
    rcases toNat_ofNat_cases (lowerCode c.toNat) with hcode | hzero
    · apply lowerChar_of_lowerCode
      rw [hcode, lowerCode_lowerCode]
    · rw [hzero]
      rfl

/-- Lowering leaves no capital sigma. -/
theorem lowerChar_ne_sigma (c : Char) : lowerChar c ≠ 'Σ' := by
  intro h
  have hsigma := lowerChar_lowerChar c
  rw [h] at hsigma
  exact absurd hsigma (by decide)

/-- Nothing else is lowered to the dotted capital. -/
theorem eq_of_lowerChar {c : Char} (h : lowerChar c = 'İ') : c = 'İ' := by
  unfold lowerChar at h
  split at h
  next hc =>
    have hascii : ∀ n < 0x80, (Char.ofNat n).toLower ≠ 'İ' := by decide
    refine absurd ?_ (hascii c.toNat hc)
    rwa [Char.ofNat_toNat]
  next =>
    rcases toNat_ofNat_cases (lowerCode c.toNat) with hcode | hzero
    · rw [h] at hcode
      exact Char.toNat_inj.1 (eq_of_lowerCode hcode.symm)
    · rw [h] at hzero
      exact absurd hzero (by decide)

end UrlRouting.Text
