import Mathlib.Data.List.Nodup

/-!
# Stable sorting

Elements that an order does not tell apart are *tied*. A stable sort keeps tied elements in
their places, and this fixes its result: two sorted lists that agree on each class of tied
elements are one list (`eq_of_filter_tied`). So sorting commutes with keeping some of the
elements (`filter_mergeSort`), and a list may be sorted by distributing it over buckets that
the order keeps apart (`flatMap_buckets`). A sort that compares the places of tied elements last
is stable from the start, whatever happened to the list before it (`mergeSort_then_place`). To a
function that does not tell tied elements apart, any sort is (`map_mergeSort_perm`).
-/

namespace UrlRouting

/-- An order by which any list can be sorted: transitive, and any two elements compare. -/
structure Ranking {α : Type u} (le : α → α → Bool) : Prop where
  /-- It is transitive. -/
  trans : ∀ a b c, le a b → le b c → le a c
  /-- Any two elements compare. -/
  total : ∀ a b, le a b || le b a

/-- The order does not tell two elements apart. -/
def tied {α : Type u} (le : α → α → Bool) (a b : α) : Bool := le a b && le b a

namespace Ranking

variable {α : Type u} {le : α → α → Bool}

/-- Any way of comparing that is transitive gives an order. -/
theorem of_compare (cmp : α → α → Ordering) [Std.TransCmp cmp] :
    Ranking fun a b => (cmp a b).isLE where
  trans _ _ _ h h' := Std.TransCmp.isLE_trans h h'
  total a b := by
    have hswap : cmp b a = (cmp a b).swap := Std.OrientedCmp.eq_swap
    rw [hswap]
    cases cmp a b <;> rfl

theorem refl (r : Ranking le) (a : α) : le a a := by simpa using r.total a a

theorem tied_self (r : Ranking le) (a : α) : tied le a a := by simp [tied, r.refl a]

theorem tied_symm {a b : α} (h : tied le a b) : tied le b a := by
  simpa [tied, Bool.and_comm] using h

theorem tied_trans (r : Ranking le) {a b c : α} (h : tied le a b) (h' : tied le b c) :
    tied le a c := by
  simp only [tied, Bool.and_eq_true] at h h' ⊢
  exact ⟨r.trans _ _ _ h.1 h'.1, r.trans _ _ _ h'.2 h.2⟩

theorem pairwise_sort (r : Ranking le) (l : List α) :
    (l.mergeSort le).Pairwise fun a b => le a b :=
  List.pairwise_mergeSort r.trans r.total l

/-- Lists without any tied elements in them are empty. -/
theorem eq_nil_of_filter_tied (r : Ranking le) {l : List α}
    (h : ∀ a, l.filter (tied le a) = []) : l = [] := by
  cases l with
  | nil => rfl
  | cons a l =>
    have := h a
    rw [List.filter_cons_of_pos (r.tied_self a)] at this
    cases this

/-- The first element of a sorted list comes before every element of a list that agrees with it
on each class of tied elements. -/
theorem le_of_filter_tied (r : Ranking le) {a b : α} {l₁ l₂ : List α}
    (h₁ : (a :: l₁).Pairwise fun a b => le a b) (hb : b ∈ l₂)
    (h : ∀ c, (a :: l₁).filter (tied le c) = l₂.filter (tied le c)) : le a b := by
  have hm : b ∈ (a :: l₁).filter (tied le b) := by
    rw [h b]
    exact List.mem_filter.2 ⟨hb, r.tied_self b⟩
  rcases List.mem_cons.1 (List.mem_filter.1 hm).1 with rfl | hb
  · exact r.refl b
  · exact List.rel_of_pairwise_cons h₁ hb

/-- Sorted lists that agree on each class of tied elements are equal. -/
theorem eq_of_filter_tied (r : Ranking le) {l₁ l₂ : List α}
    (h₁ : l₁.Pairwise fun a b => le a b) (h₂ : l₂.Pairwise fun a b => le a b)
    (h : ∀ a, l₁.filter (tied le a) = l₂.filter (tied le a)) : l₁ = l₂ := by
  induction l₁ generalizing l₂ with
  | nil => exact (r.eq_nil_of_filter_tied fun a => (h a).symm).symm
  | cons a l₁ ih =>
    cases l₂ with
    | nil => exact r.eq_nil_of_filter_tied h
    | cons b l₂ =>
      -- the heads are tied, so both lead the same class
      have hab : tied le a b := by
        simp only [tied, Bool.and_eq_true]
        exact ⟨r.le_of_filter_tied h₁ List.mem_cons_self h,
          r.le_of_filter_tied h₂ List.mem_cons_self fun c => (h c).symm⟩
      have heads := h a
      rw [List.filter_cons_of_pos (r.tied_self a), List.filter_cons_of_pos hab] at heads
      obtain rfl : a = b := (List.cons.inj heads).1
      congr 1
      refine ih h₁.tail h₂.tail fun c => ?_
      have hc := h c
      by_cases hca : tied le c a
      · rw [List.filter_cons_of_pos hca, List.filter_cons_of_pos hca] at hc
        exact (List.cons.inj hc).2
      · rwa [List.filter_cons_of_neg hca, List.filter_cons_of_neg hca] at hc

/-- Sorting leaves each class of tied elements as it is. -/
theorem filter_tied_mergeSort (r : Ranking le) (l : List α) (a : α) :
    (l.mergeSort le).filter (tied le a) = l.filter (tied le a) := by
  have hp : (l.filter (tied le a)).Pairwise fun b c => le b c := by
    refine List.pairwise_filter.2 (List.pairwise_of_forall fun b c hb hc => ?_)
    have := r.tied_trans (tied_symm hb) hc
    simp only [tied, Bool.and_eq_true] at this
    exact this.1
  have hs := (List.sublist_mergeSort r.trans r.total hp List.filter_sublist).filter (tied le a)
  rw [List.filter_filter] at hs
  simp only [Bool.and_self] at hs
  refine (hs.eq_of_length ?_).symm
  exact ((List.mergeSort_perm l le).filter _).length_eq.symm

/-- A sorted list that agrees with another one on each class of tied elements is what sorting
the other one gives. -/
theorem eq_mergeSort (r : Ranking le) {l sorted : List α}
    (hp : sorted.Pairwise fun a b => le a b)
    (h : ∀ a, sorted.filter (tied le a) = l.filter (tied le a)) : sorted = l.mergeSort le :=
  r.eq_of_filter_tied hp (r.pairwise_sort l) fun a => by rw [h a, r.filter_tied_mergeSort]

/-- Sorting commutes with keeping some of the elements. -/
theorem filter_mergeSort (r : Ranking le) (p : α → Bool) (l : List α) :
    (l.mergeSort le).filter p = (l.filter p).mergeSort le := by
  refine r.eq_mergeSort ((r.pairwise_sort l).filter p) fun a => ?_
  rw [List.filter_filter, List.filter_filter]
  simp only [Bool.and_comm (tied le a _)]
  rw [← List.filter_filter, ← List.filter_filter, r.filter_tied_mergeSort]

/-- The first element of a sorted list comes before all that is tied to an element of the list. -/
theorem le_of_countP_pos (r : Ranking le) {a c : α} {l : List α}
    (hp : (a :: l).Pairwise fun a b => le a b) (hc : 0 < (a :: l).countP (tied le c)) : le a c := by
  obtain ⟨b, hb, hcb⟩ := List.countP_pos_iff.1 hc
  simp only [tied, Bool.and_eq_true] at hcb
  rcases List.mem_cons.1 hb with rfl | hb
  · exact hcb.2
  · exact r.trans _ _ _ (List.rel_of_pairwise_cons hp hb) hcb.2

/-- Two sorted lists with as many elements of each class of tied elements look the same to a
function that does not tell tied elements apart. -/
theorem map_eq_of_countP_tied {β : Type v} (r : Ranking le) {l₁ l₂ : List α} {f : α → β}
    (h₁ : l₁.Pairwise fun a b => le a b) (h₂ : l₂.Pairwise fun a b => le a b)
    (h : ∀ c, l₁.countP (tied le c) = l₂.countP (tied le c))
    (hf : ∀ a ∈ l₁, ∀ b ∈ l₂, tied le a b → f a = f b) : l₁.map f = l₂.map f := by
  have hpos (a : α) (l : List α) : 0 < (a :: l).countP (tied le a) :=
    List.countP_pos_iff.2 ⟨a, List.mem_cons_self, r.tied_self a⟩
  induction l₁ generalizing l₂ with
  | nil =>
    cases l₂ with
    | nil => rfl
    | cons b l₂ => exact absurd (h b) (Nat.ne_of_lt (hpos b l₂))
  | cons a l₁ ih =>
    cases l₂ with
    | nil => exact absurd (h a) (Nat.ne_of_gt (hpos a l₁))
    | cons b l₂ =>
      -- the heads are tied, though they need not be equal
      have hab : tied le a b := by
        simp only [tied, Bool.and_eq_true]
        exact ⟨r.le_of_countP_pos h₁ (h b ▸ hpos b l₂), r.le_of_countP_pos h₂ (h a ▸ hpos a l₁)⟩
      rw [List.map_cons, List.map_cons, hf a List.mem_cons_self b List.mem_cons_self hab]
      congr 1
      apply ih h₁.tail h₂.tail
      · intro c
        have hclass : tied le c a = tied le c b := by
          rw [Bool.eq_iff_iff]
          exact ⟨fun hca => r.tied_trans hca hab, fun hcb => r.tied_trans hcb (tied_symm hab)⟩
        have hc := h c
        rw [List.countP_cons, List.countP_cons, hclass] at hc
        exact Nat.add_right_cancel hc
      · intro a' ha' b' hb'
        exact hf a' (List.mem_cons_of_mem _ ha') b' (List.mem_cons_of_mem _ hb')

/-- Shuffling a list before it is sorted is not seen by a function that does not tell tied elements
apart. -/
theorem map_mergeSort_perm {β : Type v} (r : Ranking le) {l l' : List α} (hperm : l.Perm l')
    {f : α → β} (hf : ∀ a ∈ l, ∀ b ∈ l, tied le a b → f a = f b) :
    (l.mergeSort le).map f = (l'.mergeSort le).map f := by
  have hsorted : (l.mergeSort le).Perm (l'.mergeSort le) :=
    ((List.mergeSort_perm l le).trans hperm).trans (List.mergeSort_perm l' le).symm
  apply r.map_eq_of_countP_tied (r.pairwise_sort l) (r.pairwise_sort l')
  · exact fun c => hsorted.countP_eq _
  · intro a ha b hb
    exact hf a (List.mem_mergeSort.1 ha) b (hperm.mem_iff.2 (List.mem_mergeSort.1 hb))

/-- A list in which nothing outside of `p` stands before something inside of it falls into two
portions. -/
theorem eq_filter_append {p : α → Bool} {l : List α} (h : l.Pairwise fun a b => p b → p a) :
    l = l.filter p ++ l.filter fun a => !p a := by
  induction l with
  | nil => rfl
  | cons a l ih =>
    rw [List.pairwise_cons] at h
    by_cases ha : p a
    · rw [List.filter_cons_of_pos ha, List.filter_cons_of_neg (by simp [ha]), List.cons_append,
        ← ih h.2]
    · have hl : ∀ b ∈ a :: l, ¬ p b := by
        rintro b (_ | ⟨_, hb⟩)
        · exact ha
        · exact fun hb' => ha (h.1 b hb hb')
      rw [List.filter_eq_nil_iff.2 hl, List.nil_append, List.filter_eq_self.2 (by simpa using hl)]

/-- A list may be sorted in two portions if one comes before the other. -/
theorem mergeSort_eq_append (r : Ranking le) {p : α → Bool} {l : List α}
    (h : ∀ a ∈ l, ∀ b ∈ l, p a → ¬ p b → ¬ le b a) :
    l.mergeSort le = (l.filter p).mergeSort le ++ (l.filter fun a => !p a).mergeSort le := by
  rw [← r.filter_mergeSort, ← r.filter_mergeSort]
  refine eq_filter_append ((r.pairwise_sort l).imp_of_mem fun {a b} ha hb hab hpb => ?_)
  by_contra hpa
  exact h b (List.mem_mergeSort.1 hb) a (List.mem_mergeSort.1 ha) hpb hpa hab

/-- A list may be sorted by distributing it over buckets that the order keeps apart. -/
theorem flatMap_buckets {κ : Type v} (r : Ranking le) (holds : κ → α → Bool) {keys : List κ}
    {l : List α} (cover : ∀ a ∈ l, ∃ k ∈ keys, holds k a)
    (apart : keys.Pairwise fun k k' => ∀ a ∈ l, ∀ b ∈ l, holds k a → holds k' b → ¬ le b a) :
    keys.flatMap (fun k => (l.filter (holds k)).mergeSort le) = l.mergeSort le := by
  induction keys generalizing l with
  | nil =>
    have : l = [] := List.eq_nil_iff_forall_not_mem.2 fun a ha => by simpa using cover a ha
    simp [this]
  | cons k keys ih =>
    rw [List.pairwise_cons] at apart
    have hsplit : ∀ a ∈ l, ∀ b ∈ l, holds k a → ¬ holds k b → ¬ le b a := by
      intro a ha b hb hka hkb
      obtain ⟨k', hk', hb'⟩ := cover b hb
      rcases List.mem_cons.1 hk' with rfl | hk'
      · exact absurd hb' hkb
      · exact apart.1 k' hk' a ha b hb hka hb'
    rw [List.flatMap_cons, r.mergeSort_eq_append hsplit]
    congr 1
    rw [← ih]
    · refine List.flatMap_congr fun k' hk' => ?_
      congr 1
      rw [List.filter_filter]
      refine List.filter_congr fun b hb => ?_
      -- nothing of the first bucket is in a later one
      cases hb' : holds k' b with
      | false => rfl
      | true =>
        have hkb : holds k b = false := by
          by_contra hkb
          exact apart.1 k' hk' b hb b hb (by simpa using hkb) hb' (r.refl b)
        simp [hkb]
    · intro a ha
      simp only [List.mem_filter, Bool.not_eq_true'] at ha
      obtain ⟨k', hk', hak'⟩ := cover a ha.1
      rcases List.mem_cons.1 hk' with rfl | hk'
      · rw [ha.2] at hak'
        cases hak'
      · exact ⟨k', hk', hak'⟩
    · exact apart.2.imp fun h a ha b hb =>
        h a (List.mem_filter.1 ha).1 b (List.mem_filter.1 hb).1

end Ranking

/-- A list whose elements know their places may be shuffled before it is sorted: comparing places
last puts tied elements back in order. -/
theorem mergeSort_then_place {α : Type u} (cmp : α → α → Ordering) [Std.TransCmp cmp]
    (place : α → Nat) {l shuffled : List α} (hperm : shuffled.Perm l)
    (hplace : l.Pairwise fun a b => place a < place b) :
    shuffled.mergeSort (fun a b => ((cmp a b).then (compare (place a) (place b))).isLE) =
      l.mergeSort fun a b => (cmp a b).isLE := by
  have : Std.TransCmp fun a b => (cmp a b).then (compare (place a) (place b)) :=
    inferInstanceAs (Std.TransCmp (compareLex cmp (compareOn place)))
  have hsorted := (Ranking.of_compare fun a b =>
    (cmp a b).then (compare (place a) (place b))).pairwise_sort shuffled
  refine (Ranking.of_compare cmp).eq_mergeSort (hsorted.imp fun {a b} h => ?_) fun c => ?_
  · exact (Ordering.isLE_then_iff_and.1 h).1
  · -- both lists go through the class of `c` by place, and no two elements share a place
    refine List.Perm.eq_of_pairwise (fun a b ha hb (hab : place a ≤ place b) hba => ?_) ?_ ?_
      (((List.mergeSort_perm _ _).trans hperm).filter _)
    · have ha : a ∈ l := hperm.mem_iff.1 (List.mem_mergeSort.1 (List.mem_filter.1 ha).1)
      have hnodup : (l.map place).Nodup := List.pairwise_map.2 (hplace.imp Nat.ne_of_lt)
      exact List.inj_on_of_nodup_map hnodup ha (List.mem_filter.1 hb).1 (Nat.le_antisymm hab hba)
    · refine List.pairwise_filter.2 (hsorted.imp fun {a b} hab hca hcb => ?_)
      have htied := (Ranking.of_compare cmp).tied_trans (Ranking.tied_symm hca) hcb
      simp only [tied, Bool.and_eq_true] at htied
      have heq : cmp a b = .eq := Std.OrientedCmp.isLE_antisymm htied.1 htied.2
      rw [heq] at hab
      exact Nat.isLE_compare.1 hab
    · exact (hplace.imp Nat.le_of_lt).filter _

/-- Sorting looks only at how elements of the list compare. -/
theorem mergeSort_congr {α : Type u} {le le' : α → α → Bool} {l : List α}
    (h : ∀ a ∈ l, ∀ b ∈ l, le a b = le' a b) : l.mergeSort le = l.mergeSort le' := by
  simpa using List.map_mergeSort (f := id) h

end UrlRouting
