import Mathlib.Data.List.Basic
import UrlRouting.Text.Utf8

/-!
# Reading UTF-8 undoes writing it

Each character is written as one to four bytes. `decodeFirst` reads it back from them and leaves
the bytes after it alone (`decodeFirst_encode`), so `decodeUtf8` undoes `encodeUtf8`.
-/

namespace UrlRouting.Text

theorem isContinuation_iff {b : UInt8} :
    isContinuation b ↔ 0x80 ≤ b.toNat ∧ b.toNat ≤ 0xbf := by
  simp [isContinuation, UInt8.le_iff_toNat_le]

theorem not_lt_of_toNat_le {a b : UInt8} (h : b.toNat ≤ a.toNat) : ¬ a < b := by
  rw [UInt8.lt_iff_toNat_lt]
  exact Nat.not_lt.2 h

theorem not_le_of_toNat_lt {a b : UInt8} (h : b.toNat < a.toNat) : ¬ a ≤ b := by
  rw [UInt8.le_iff_toNat_le]
  exact Nat.not_le.2 h

/-- The second of three bytes is one that continues a character, with a bound from below after the
first lead byte and one from above after the lead byte of the surrogates. -/
theorem isSecondOfThree_of_toNat {lead b : UInt8} (hb : isContinuation b)
    (hlow : lead.toNat = 0xe0 → 0xa0 ≤ b.toNat) (hhigh : lead.toNat = 0xed → b.toNat ≤ 0x9f) :
    isSecondOfThree lead b := by
  have hrange := isContinuation_iff.1 hb
  unfold isSecondOfThree
  split
  next h =>
    rw [h] at hlow
    simpa [UInt8.le_iff_toNat_le] using ⟨hlow rfl, hrange.2⟩
  next =>
    split
    next h =>
      rw [h] at hhigh
      simpa [UInt8.le_iff_toNat_le] using ⟨hrange.1, hhigh rfl⟩
    next => exact hb

/-- The second of four bytes is one that continues a character, with a bound from below after the
first lead byte and one from above after the last. -/
theorem isSecondOfFour_of_toNat {lead b : UInt8} (hb : isContinuation b)
    (hlow : lead.toNat = 0xf0 → 0x90 ≤ b.toNat) (hhigh : lead.toNat = 0xf4 → b.toNat ≤ 0x8f) :
    isSecondOfFour lead b := by
  have hrange := isContinuation_iff.1 hb
  unfold isSecondOfFour
  split
  next h =>
    rw [h] at hlow
    simpa [UInt8.le_iff_toNat_le] using ⟨hlow rfl, hrange.2⟩
  next =>
    split
    next h =>
      rw [h] at hhigh
      simpa [UInt8.le_iff_toNat_le] using ⟨hrange.1, hhigh rfl⟩
    next => exact hb

/-! ### One character -/

theorem decodeFirst_one {a : UInt8} (ha : a.toNat < 0x80) (rest : List UInt8) :
    decodeFirst a rest = (Char.ofNat a.toNat, rest) := by
  have : a < 0x80 := UInt8.lt_iff_toNat_lt.2 ha
  simp only [decodeFirst, this, if_true]

theorem decodeFirst_two {a b : UInt8} (ha : 0xc2 ≤ a.toNat ∧ a.toNat ≤ 0xdf)
    (hb : isContinuation b) (rest : List UInt8) :
    decodeFirst a (b :: rest) =
      (Char.ofNat (a.toNat % 0x20 * 0x40 + b.toNat % 0x40), rest) := by
  have h1 : ¬ a < 0x80 := not_lt_of_toNat_le (Nat.le_trans (by decide) ha.1)
  have h2 : 0xc2 ≤ a ∧ a ≤ 0xdf := by simpa [UInt8.le_iff_toNat_le] using ha
  simp [decodeFirst, h1, h2, hb, lowBits]

theorem decodeFirst_three {a b c : UInt8} (ha : 0xe0 ≤ a.toNat ∧ a.toNat ≤ 0xef)
    (hb : isSecondOfThree a b) (hc : isContinuation c) (rest : List UInt8) :
    decodeFirst a (b :: c :: rest) =
      (Char.ofNat (a.toNat % 0x10 * 0x1000 + b.toNat % 0x40 * 0x40 + c.toNat % 0x40), rest) := by
  have h1 : ¬ a < 0x80 := not_lt_of_toNat_le (Nat.le_trans (by decide) ha.1)
  have h2 : ¬ a ≤ 0xdf := not_le_of_toNat_lt (Nat.lt_of_lt_of_le (by decide) ha.1)
  have h3 : 0xe0 ≤ a ∧ a ≤ 0xef := by simpa [UInt8.le_iff_toNat_le] using ha
  simp [decodeFirst, h1, h2, h3, hb, hc, lowBits]

theorem decodeFirst_four {a b c d : UInt8} (ha : 0xf0 ≤ a.toNat ∧ a.toNat ≤ 0xf4)
    (hb : isSecondOfFour a b) (hc : isContinuation c) (hd : isContinuation d)
    (rest : List UInt8) :
    decodeFirst a (b :: c :: d :: rest) =
      (Char.ofNat (a.toNat % 0x08 * 0x40000 + b.toNat % 0x40 * 0x1000 + c.toNat % 0x40 * 0x40 +
        d.toNat % 0x40), rest) := by
  have h1 : ¬ a < 0x80 := not_lt_of_toNat_le (Nat.le_trans (by decide) ha.1)
  have h2 : ¬ a ≤ 0xdf := not_le_of_toNat_lt (Nat.lt_of_lt_of_le (by decide) ha.1)
  have h3 : ¬ a ≤ 0xef := not_le_of_toNat_lt (Nat.lt_of_lt_of_le (by decide) ha.1)
  have h4 : 0xf0 ≤ a ∧ a ≤ 0xf4 := by simpa [UInt8.le_iff_toNat_le] using ha
  simp [decodeFirst, h1, h2, h3, h4, hb, hc, hd, lowBits]

theorem toNat_ofNat {n : Nat} (h : n < 256) : (UInt8.ofNat n).toNat = n :=
  UInt8.toNat_ofNat_of_lt' h

theorem isContinuation_ofNat (n : Nat) : isContinuation (UInt8.ofNat (n % 0x40 + 0x80)) := by
  rw [isContinuation_iff, toNat_ofNat (by omega)]
  omega

theorem isSecondOfThree_ofNat {v : Nat} (hlow : 0x800 ≤ v) (hhigh : v ≤ 0xffff)
    (hvalid : v < 0xd800 ∨ 0xdfff < v) :
    isSecondOfThree (UInt8.ofNat (v / 4096 % 0x10 + 0xe0)) (UInt8.ofNat (v / 64 % 0x40 + 0x80)) := by
  refine isSecondOfThree_of_toNat (isContinuation_ofNat _) ?_ ?_
  · rw [toNat_ofNat (by omega), toNat_ofNat (by omega)]
    omega
  · rw [toNat_ofNat (by omega), toNat_ofNat (by omega)]
    omega

theorem isSecondOfFour_ofNat {v : Nat} (hlow : 0xffff < v) (hhigh : v < 0x110000) :
    isSecondOfFour (UInt8.ofNat (v / 262144 % 0x08 + 0xf0))
      (UInt8.ofNat (v / 4096 % 0x40 + 0x80)) := by
  refine isSecondOfFour_of_toNat (isContinuation_ofNat _) ?_ ?_
  · rw [toNat_ofNat (by omega), toNat_ofNat (by omega)]
    omega
  · rw [toNat_ofNat (by omega), toNat_ofNat (by omega)]
    omega

/-- The bytes of a character are read back, and those after it are left alone. -/
theorem decodeFirst_encode (c : Char) (rest : List UInt8) :
    ∃ lead tail, String.utf8EncodeChar c ++ rest = lead :: tail ∧
      decodeFirst lead tail = (c, rest) := by
  have hvalid : c.val.toNat < 0xd800 ∨ 0xdfff < c.val.toNat ∧ c.val.toNat < 0x110000 := c.valid
  have hofNat : Char.ofNat c.val.toNat = c := Char.ofNat_toNat c
  unfold String.utf8EncodeChar
  dsimp only
  split
  next h =>
    refine ⟨_, _, rfl, ?_⟩
    rw [decodeFirst_one, toNat_ofNat, hofNat]
    · rfl
    · omega
    · rw [toNat_ofNat] <;> omega
  next h1 =>
    split
    next h2 =>
      refine ⟨_, _, rfl, (decodeFirst_two ?_ (isContinuation_ofNat _) rest).trans ?_⟩
      · rw [toNat_ofNat (by omega)]
        omega
      · rw [toNat_ofNat (by omega), toNat_ofNat (by omega)]
        refine congrArg (·, rest) ((congrArg Char.ofNat ?_).trans hofNat)
        omega
    next h2 =>
      split
      next h3 =>
        refine ⟨_, _, rfl, (decodeFirst_three ?_ (isSecondOfThree_ofNat ?_ h3 ?_)
          (isContinuation_ofNat _) rest).trans ?_⟩
        · rw [toNat_ofNat (by omega)]
          omega
        · omega
        · exact hvalid.imp_right And.left
        · rw [toNat_ofNat (by omega), toNat_ofNat (by omega), toNat_ofNat (by omega)]
          refine congrArg (·, rest) ((congrArg Char.ofNat ?_).trans hofNat)
          omega
      next h3 =>
        refine ⟨_, _, rfl, (decodeFirst_four ?_ (isSecondOfFour_ofNat ?_ ?_)
          (isContinuation_ofNat _) (isContinuation_ofNat _) rest).trans ?_⟩
        · rw [toNat_ofNat (by omega)]
          omega
        · omega
        · omega
        · rw [toNat_ofNat (by omega), toNat_ofNat (by omega), toNat_ofNat (by omega),
            toNat_ofNat (by omega)]
          refine congrArg (·, rest) ((congrArg Char.ofNat ?_).trans hofNat)
          omega

/-! ### Texts -/

/-- Reading undoes writing. -/
theorem decodeUtf8_encodeUtf8 (cs : List Char) : decodeUtf8 (encodeUtf8 cs) = cs := by
  induction cs with
  | nil => simp [decodeUtf8]
  | cons c cs ih =>
    obtain ⟨lead, tail, happ, hfirst⟩ := decodeFirst_encode c (encodeUtf8 cs)
    rw [show encodeUtf8 (c :: cs) = lead :: tail from happ, decodeUtf8, hfirst, ih]

end UrlRouting.Text
