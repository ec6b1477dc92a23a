import Mathlib.Data.List.Basic
import UrlRouting.LinkIndex.BitSet

/-!
# Sets of bits are sets

The numbers of a set are those that were inserted, as long as they are below the capacity
(`contains_ofList`). Inclusion and disjointness, which are decided word by word, are those of the
numbers (`isSubset_iff`, `isDisjoint_iff`), and sets with the same numbers are equal (`eq_iff`).

`insert` leaves a set as it is where there is no word for a number. That this does not happen below
the capacity is said with `insert?` and `contains?`, which have no answer without a word
(`foldlM_insert?`, `contains?_eq`). `set_of_inserted` puts all this together.
-/

namespace UrlRouting.BitSet

/-! ### Inserting -/

/-- How many words a capacity needs. -/
@[simp] theorem length_withCapacity (n : Nat) : (withCapacity n).words.length = (n + 63) / 64 := by
  simp [withCapacity]

@[simp] theorem length_insert (s : BitSet) (i : Nat) :
    (s.insert i).words.length = s.words.length := by
  simp [insert]

theorem length_foldl_insert (is : List Nat) (s : BitSet) :
    (is.foldl insert s).words.length = s.words.length := by
  induction is generalizing s with
  | nil => rfl
  | cons i is ih => rw [List.foldl_cons, ih, length_insert]

@[simp] theorem length_ofList (n : Nat) (is : List Nat) :
    (ofList n is).words.length = (n + 63) / 64 := by
  rw [ofList, length_foldl_insert, length_withCapacity]

theorem contains_withCapacity (n j : Nat) : (withCapacity n).contains j = false := by
  unfold contains withCapacity
  cases h : (List.replicate ((n + 63) / 64) (0 : BitVec 64))[j / 64]? with
  | none => simp
  | some w =>
    rw [List.eq_of_mem_replicate (List.mem_of_getElem? h)]
    simp

/-- Inserting a number adds it and nothing else, provided that there is a word for it. -/
theorem contains_insert {s : BitSet} {i : Nat} (h : i / 64 < s.words.length) (j : Nat) :
    (s.insert i).contains j = (decide (i = j) || s.contains j) := by
  unfold contains insert
  rw [List.getElem?_modify]
  by_cases hword : i / 64 = j / 64
  · rw [hword] at h ⊢
    have hbit : j % 64 = i % 64 ↔ i = j := by omega
    have hlt : j % 64 < 64 := Nat.mod_lt _ (by decide)
    rw [List.getElem?_eq_getElem h]
    simp [hbit, hlt, Bool.or_comm]
  · have hne : i ≠ j := fun heq => hword (by rw [heq])
    simp [hword, hne]

theorem contains_foldl_insert {is : List Nat} {s : BitSet} (h : ∀ i ∈ is, i / 64 < s.words.length)
    (j : Nat) : (is.foldl insert s).contains j = (decide (j ∈ is) || s.contains j) := by
  induction is generalizing s with
  | nil => simp
  | cons i is ih =>
    rw [List.forall_mem_cons] at h
    have hrest : ∀ i' ∈ is, i' / 64 < (s.insert i).words.length := by
      rw [length_insert]
      exact h.2
    rw [List.foldl_cons, ih hrest, contains_insert h.1]
    simp only [List.mem_cons, Bool.decide_or, eq_comm (a := i)]
    ac_rfl

/-- There is a word for each number below the capacity, whatever has been inserted. -/
theorem lt_length_ofList {n i : Nat} (is : List Nat) (h : i < n) :
    i / 64 < (ofList n is).words.length := by
  rw [length_ofList]
  omega

/-- The numbers of a set are those that it was made of. -/
theorem contains_ofList {n : Nat} {is : List Nat} (h : ∀ i ∈ is, i < n) (j : Nat) :
    (ofList n is).contains j = decide (j ∈ is) := by
  have hroom : ∀ i ∈ is, i / 64 < (withCapacity n).words.length :=
    fun i hi => lt_length_ofList [] (h i hi)
  rw [ofList, contains_foldl_insert hroom, contains_withCapacity, Bool.or_false]

/-! ### Comparing -/

/-- What is decided word by word holds of the words at each place. -/
theorem all_zipWith {f : BitVec 64 → BitVec 64 → Bool} {s t : List (BitVec 64)}
    (hlength : s.length = t.length) :
    (List.zipWith f s t).all id ↔ ∀ k < s.length, f (s[k]?.getD 0) (t[k]?.getD 0) := by
  induction s generalizing t with
  | nil => simp
  | cons a s ih =>
    cases t with
    | nil => cases hlength
    | cons b t =>
      rw [List.zipWith_cons_cons, List.all_cons, Bool.and_eq_true, ih (Nat.succ.inj hlength)]
      constructor
      · rintro ⟨hhead, htail⟩ (_ | k) hk
        · exact hhead
        · exact htail k (Nat.lt_of_succ_lt_succ hk)
      · intro h
        exact ⟨h 0 (Nat.succ_pos _), fun k hk => h (k + 1) (Nat.succ_lt_succ hk)⟩

theorem contains_bit (s : BitSet) {k i : Nat} (hi : i < 64) :
    s.contains (64 * k + i) = (s.words[k]?.getD 0).getLsbD i := by
  rw [contains, show (64 * k + i) / 64 = k by omega, show (64 * k + i) % 64 = i by omega]

/-- No number beyond the words belongs to a set. -/
theorem contains_of_le {s : BitSet} {j : Nat} (h : 64 * s.words.length ≤ j) :
    s.contains j = false := by
  rw [contains, List.getElem?_eq_none (by omega)]
  simp

variable {s t : BitSet}

/-- A comparison of words that compares their bits compares the numbers of two sets. -/
theorem all_zipWith_iff {f : BitVec 64 → BitVec 64 → Bool} {R : Bool → Bool → Prop}
    (hf : ∀ a b, f a b ↔ ∀ i < 64, R (a.getLsbD i) (b.getLsbD i)) (hnone : R false false)
    (hlength : s.words.length = t.words.length) :
    (List.zipWith f s.words t.words).all id ↔ ∀ j, R (s.contains j) (t.contains j) := by
  rw [all_zipWith hlength]
  constructor
  · intro h j
    by_cases hle : 64 * s.words.length ≤ j
    · rw [contains_of_le hle, contains_of_le (hlength ▸ hle)]
      exact hnone
    · have hi : j % 64 < 64 := Nat.mod_lt _ (by decide)
      have hbit := (hf _ _).1 (h (j / 64) (by omega)) (j % 64) hi
      rwa [← contains_bit s hi, ← contains_bit t hi, Nat.div_add_mod] at hbit
  · intro h k hk
    refine (hf _ _).2 fun i hi => ?_
    rw [← contains_bit s hi, ← contains_bit t hi]
    exact h _

theorem and_not_eq_zero (a b : BitVec 64) :
    (a &&& ~~~b == 0) ↔ ∀ i < 64, a.getLsbD i → b.getLsbD i := by
  rw [beq_iff_eq]
  constructor
  · intro h i hi ha
    simpa [hi, ha] using congrArg (·.getLsbD i) h
  · intro h
    refine BitVec.eq_of_getLsbD_eq fun i hi => ?_
    simpa [hi] using h i hi

theorem and_eq_zero (a b : BitVec 64) :
    (a &&& b == 0) ↔ ∀ i < 64, a.getLsbD i → b.getLsbD i = false := by
  rw [beq_iff_eq]
  constructor
  · intro h i hi ha
    simpa [hi, ha] using congrArg (·.getLsbD i) h
  · intro h
    refine BitVec.eq_of_getLsbD_eq fun i hi => ?_
    simpa [hi] using h i hi

/-- Inclusion word by word is inclusion. -/
theorem isSubset_iff (hlength : s.words.length = t.words.length) :
    s.isSubset t ↔ ∀ j, s.contains j → t.contains j :=
  all_zipWith_iff (R := fun x y => x = true → y = true) and_not_eq_zero id hlength

/-- Disjointness word by word is disjointness. -/
theorem isDisjoint_iff (hlength : s.words.length = t.words.length) :
    s.isDisjoint t ↔ ∀ j, s.contains j → t.contains j = false :=
  all_zipWith_iff (R := fun x y => x = true → y = false) and_eq_zero (fun _ => rfl) hlength

/-- Sets of as many words are equal if all their bits are, also those beyond the capacity. -/
theorem eq_iff (hlength : s.words.length = t.words.length) :
    s = t ↔ ∀ j, s.contains j = t.contains j := by
  constructor
  · rintro rfl j
    rfl
  · intro h
    obtain ⟨sw⟩ := s
    obtain ⟨tw⟩ := t
    rw [mk.injEq]
    refine List.ext_getElem hlength fun k hk hk' => BitVec.eq_of_getLsbD_eq fun i hi => ?_
    have hbit := h (64 * k + i)
    rwa [contains_bit _ hi, contains_bit _ hi, List.getElem?_eq_getElem hk,
      List.getElem?_eq_getElem hk'] at hbit

/-! ### Looking up words -/

/-- Adds a number, if there is a word for it. -/
def insert? (s : BitSet) (i : Nat) : Option BitSet :=
  s.words[i / 64]?.map fun word => ⟨s.words.set (i / 64) (word ||| BitVec.twoPow 64 (i % 64))⟩

/-- Whether a number belongs to the set, by the mask of its bit, if there is a word for it. -/
def contains? (s : BitSet) (i : Nat) : Option Bool :=
  s.words[i / 64]?.map fun word => word &&& BitVec.twoPow 64 (i % 64) != 0

theorem insert?_eq {i : Nat} (h : i / 64 < s.words.length) : s.insert? i = some (s.insert i) := by
  rw [insert?, insert, List.modify_eq_set_getElem?, List.getElem?_eq_getElem h]
  rfl

/-- Numbers that there are words for are inserted one by one. -/
theorem foldlM_insert? {is : List Nat} (h : ∀ i ∈ is, i / 64 < s.words.length) :
    is.foldlM insert? s = some (is.foldl insert s) := by
  induction is generalizing s with
  | nil => rfl
  | cons i is ih =>
    rw [List.forall_mem_cons] at h
    rw [List.foldlM_cons, insert?_eq h.1, List.foldl_cons]
    exact ih (by simpa using h.2)

/-- The mask of one bit tests this bit. -/
theorem and_twoPow_bne_zero (word : BitVec 64) {k : Nat} (hk : k < 64) :
    (word &&& BitVec.twoPow 64 k != 0) = word.getLsbD k := by
  have hmask : BitVec.twoPow 64 k ≠ 0 := by
    intro h
    simpa [hk] using congrArg (·.getLsbD k) h
  rw [BitVec.and_twoPow]
  split
  next hbit => rw [hbit, bne_iff_ne.2 hmask]
  next hbit => simp [hbit]

theorem contains?_eq {i : Nat} (h : i / 64 < s.words.length) :
    s.contains? i = some (s.contains i) := by
  have hbit : i % 64 < 64 := Nat.mod_lt _ (by decide)
  rw [contains?, contains, List.getElem?_eq_getElem h, Option.map_some, Option.getD_some,
    and_twoPow_bne_zero _ hbit]

/-! ### Sets of inserted numbers -/

section

variable {n : Nat} {is js : List Nat} (his : ∀ i ∈ is, i < n) (hjs : ∀ j ∈ js, j < n)

include his hjs

theorem isSubset_ofList : (ofList n is).isSubset (ofList n js) ↔ is ⊆ js := by
  rw [isSubset_iff (by simp)]
  simp only [contains_ofList his, contains_ofList hjs, decide_eq_true_iff]
  rfl

theorem isDisjoint_ofList : (ofList n is).isDisjoint (ofList n js) ↔ is.Disjoint js := by
  rw [isDisjoint_iff (by simp)]
  simp only [contains_ofList his, contains_ofList hjs, decide_eq_true_iff, decide_eq_false_iff_not]
  rfl

/-- Sets are equal if they have the same numbers below the capacity. -/
theorem ofList_eq_iff :
    ofList n is = ofList n js ↔ ∀ i < n, (ofList n is).contains i = (ofList n js).contains i := by
  rw [eq_iff (by simp)]
  refine ⟨fun h i _ => h i, fun h j => ?_⟩
  by_cases hj : j < n
  · exact h j hj
  -- beyond the capacity nothing was inserted into either
  · rw [contains_ofList his, contains_ofList hjs, decide_eq_false fun hmem => hj (his j hmem),
      decide_eq_false fun hmem => hj (hjs j hmem)]

/-- **Sets of bits are sets**: for any capacity and any numbers below it, each insertion and each
question finds its word, the numbers of a set are those that were inserted, inclusion and
disjointness are those of the inserted numbers, and two sets are equal, which is what entries are
grouped by, exactly if they have the same numbers. -/
theorem set_of_inserted :
    is.foldlM insert? (withCapacity n) = some (ofList n is) ∧
    (∀ i < n, (ofList n is).contains? i = some ((ofList n is).contains i) ∧
      ((ofList n is).contains i ↔ i ∈ is)) ∧
    ((ofList n is).isSubset (ofList n js) ↔ is ⊆ js) ∧
    ((ofList n is).isDisjoint (ofList n js) ↔ is.Disjoint js) ∧
    (ofList n is = ofList n js ↔
      ∀ i < n, (ofList n is).contains i = (ofList n js).contains i) := by
  have hinsert : is.foldlM insert? (withCapacity n) = some (ofList n is) :=
    foldlM_insert? fun i hi => lt_length_ofList [] (his i hi)
  refine ⟨hinsert, fun i hi => ⟨contains?_eq (lt_length_ofList is hi), ?_⟩,
    isSubset_ofList his hjs, isDisjoint_ofList his hjs, ofList_eq_iff his hjs⟩
  rw [contains_ofList his, decide_eq_true_iff]

end

/-- Numbers on both sides of the border between words, and in a last word that is not full. -/
theorem set_of_inserted_sample :
    (∀ i ∈ [63, 129], i < 130) ∧ (∀ j ∈ [129, 64, 63], j < 130) ∧
    [63, 129].foldlM insert? (withCapacity 130) = some (ofList 130 [63, 129]) ∧
    (ofList 130 [63, 129]).contains? 129 = some true ∧
    (ofList 130 [63, 129]).contains? 64 = some false ∧
    (ofList 130 [63, 129]).isSubset (ofList 130 [129, 64, 63]) ∧
    (ofList 130 [63, 129]).isDisjoint (ofList 130 [129, 64, 63]) = false ∧
    ofList 130 [63, 129] ≠ ofList 130 [129, 64, 63] := by
  have his : ∀ i ∈ [63, 129], i < 130 := by decide
  have hjs : ∀ j ∈ [129, 64, 63], j < 130 := by decide
  obtain ⟨hinsert, hcontains, hsubset, hdisjoint, heq⟩ := set_of_inserted his hjs
  refine ⟨his, hjs, hinsert, ?_, ?_, hsubset.2 (by decide), ?_, fun h => ?_⟩
  · rw [(hcontains 129 (by decide)).1, (hcontains 129 (by decide)).2.2 (by decide)]
  · rw [(hcontains 64 (by decide)).1, Option.some.injEq, Bool.eq_false_iff, ne_eq,
      (hcontains 64 (by decide)).2]
    decide
  · rw [Bool.eq_false_iff, ne_eq, hdisjoint]
    exact fun h => h List.mem_cons_self (by decide)
  · exact absurd (heq.1 h 64 (by decide)) (by decide)

end UrlRouting.BitSet
