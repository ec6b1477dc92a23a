import Mathlib.Data.List.Nodup
import Mathlib.Data.String.Basic
import UrlRouting.Bindings

/-!
# Laws of route values

What `get?` finds after each operation on `Bindings`, and how it is related to the items in order.
-/

namespace UrlRouting

open Text

namespace SortedBy

variable {β : Type u} {key : β → String}

/-- What is found after a placement is what was placed, or what was found before. -/
theorem find?_place (x : β) (k : String) {ys : List β}
    (h : ys.Pairwise fun a b => key a < key b) :
    (place key x ys).find? (fun y => key y == k) =
      if key x = k then some x else ys.find? fun y => key y == k := by
  induction ys with
  | nil => by_cases hk : key x = k <;> simp [place, hk]
  | cons y ys ih =>
    rw [List.pairwise_cons] at h
    simp only [place]
    split
    · by_cases hk : key x = k <;> simp [hk]
    · split
      next heq => by_cases hk : key x = k <;> simp [← heq, hk]
      next hne =>
        rw [List.find?_cons, List.find?_cons, ih h.2]
        by_cases hk : key x = k
        · have : (key y == k) = false := by
            rw [beq_eq_false_iff_ne, ← hk]
            exact fun heq => hne heq.symm
          simp [this, hk]
        · simp [hk]

/-- After an insertion the item is found under its key, and other keys are not touched. -/
theorem find?_insert (m : SortedBy key) (x : β) (k : String) :
    (m.insert x).find? k = if key x = k then some x else m.find? k :=
  find?_place x k m.ascending

theorem keys_nodup (m : SortedBy key) : (m.items.map key).Nodup := by
  refine List.pairwise_map.2 (m.ascending.imp fun {a b} hlt heq => ?_)
  rw [heq] at hlt
  exact String.lt_irrefl _ hlt

theorem mem_of_find? {m : SortedBy key} {x : β} {k : String} (h : m.find? k = some x) :
    x ∈ m.items ∧ key x = k := by
  unfold find? at h
  have hkey := List.find?_some h
  exact ⟨List.mem_of_find?_eq_some h, by simpa using hkey⟩

/-- An item is found under its key. -/
theorem find?_of_mem {m : SortedBy key} {x : β} (h : x ∈ m.items) :
    m.find? (key x) = some x := by
  obtain ⟨y, hy⟩ : ∃ y, m.find? (key x) = some y :=
    Option.isSome_iff_exists.1 (List.find?_isSome.2 ⟨x, h, beq_self_eq_true _⟩)
  obtain ⟨hmem, hkey⟩ := mem_of_find? hy
  rw [hy, List.inj_on_of_nodup_map m.keys_nodup hmem h hkey]

theorem isSome_find? {m : SortedBy key} {k : String} :
    (m.find? k).isSome ↔ k ∈ m.items.map key := by
  rw [List.mem_map, Option.isSome_iff_exists]
  constructor
  · rintro ⟨x, hx⟩
    exact ⟨x, mem_of_find? hx⟩
  · rintro ⟨x, hx, rfl⟩
    exact ⟨x, find?_of_mem hx⟩

theorem mem_iff_find? {m : SortedBy key} {x : β} : x ∈ m.items ↔ m.find? (key x) = some x :=
  ⟨find?_of_mem, fun h => (mem_of_find? h).1⟩

/-- After an insertion there are the item and what was there under other keys. -/
theorem mem_insert {m : SortedBy key} {x y : β} :
    y ∈ (m.insert x).items ↔ y = x ∨ (y ∈ m.items ∧ key x ≠ key y) := by
  rw [mem_iff_find?, find?_insert, mem_iff_find?]
  by_cases hkey : key x = key y
  · rw [if_pos hkey, Option.some_inj, eq_comm]
    simp [hkey]
  · rw [if_neg hkey]
    have hne : y ≠ x := fun heq => hkey (heq ▸ rfl)
    simp [hkey, hne]

/-- After an insertion of items with different keys there are all of them and what was there under
other keys. -/
theorem mem_insertAll {m : SortedBy key} {xs : List β} (hnodup : (xs.map key).Nodup) {y : β} :
    y ∈ (m.insertAll xs).items ↔ y ∈ xs ∨ (y ∈ m.items ∧ ∀ x ∈ xs, key x ≠ key y) := by
  induction xs generalizing m with
  | nil => simp
  | cons x xs ih =>
    rw [List.map_cons, List.nodup_cons] at hnodup
    rw [insertAll_cons, ih hnodup.2, mem_insert, List.mem_cons, List.forall_mem_cons]
    constructor
    · rintro (hmem | ⟨rfl | ⟨hmem, hne⟩, hothers⟩)
      · exact Or.inl (Or.inr hmem)
      · exact Or.inl (Or.inl rfl)
      · exact Or.inr ⟨hmem, hne, hothers⟩
    · rintro ((rfl | hmem) | ⟨hmem, hne, hothers⟩)
      · refine Or.inr ⟨Or.inl rfl, fun z hz heq => hnodup.1 ?_⟩
        exact heq ▸ List.mem_map_of_mem hz
      · exact Or.inl hmem
      · exact Or.inr ⟨Or.inr ⟨hmem, hne⟩, hothers⟩

/-- What is found after insertions is the last item inserted under the key, or what was found
before. -/
theorem find?_insertAll (m : SortedBy key) (xs : List β) (k : String) :
    (m.insertAll xs).find? k = (xs.reverse.find? fun x => key x == k).or (m.find? k) := by
  induction xs generalizing m with
  | nil => rfl
  | cons x xs ih =>
    rw [insertAll_cons, ih, find?_insert, List.reverse_cons, List.find?_append, Option.or_assoc]
    by_cases hk : key x = k <;> simp [hk]

/-- An item is found from the back as well, since no other one has its key. -/
theorem find?_reverse (m : SortedBy key) (k : String) :
    (m.items.reverse.find? fun x => key x == k) = m.find? k := by
  cases hlast : m.items.reverse.find? fun x => key x == k with
  | none =>
    rw [eq_comm, find?, List.find?_eq_none]
    intro x hx
    exact List.find?_eq_none.1 hlast x (List.mem_reverse.2 hx)
  | some x =>
    have hmem := List.mem_reverse.1 (List.mem_of_find?_eq_some hlast)
    have hkey := List.find?_some hlast
    rw [← find?_of_mem hmem, beq_iff_eq.1 hkey]

/-- The greatest element depends only on what the elements are. -/
theorem max?_congr {ks ks' : List String} (h : ∀ k, k ∈ ks ↔ k ∈ ks') : ks.max? = ks'.max? := by
  apply Option.ext
  intro k
  rw [List.max?_eq_some_iff, List.max?_eq_some_iff, h]
  simp only [h]

/-- The last item with some property of its key is the one whose key is the greatest with it. -/
theorem find?_last (m : SortedBy key) (p : String → Bool) :
    (m.items.reverse.find? fun x => p (key x)) =
      ((m.items.map key).filter p).max?.bind m.find? := by
  have hdescending : ((m.items.map key).reverse.filter p).Pairwise fun k k' => max k k' = k := by
    have hkeys : (m.items.map key).Pairwise (· < ·) := List.pairwise_map.2 m.ascending
    exact ((List.pairwise_reverse.2 hkeys).imp fun hlt => max_eq_left (le_of_lt hlt)).filter p
  have hmax : ((m.items.map key).filter p).max? =
      (m.items.reverse.find? fun x => p (key x)).map key := by
    have hsame (k : String) :
        k ∈ (m.items.map key).filter p ↔ k ∈ (m.items.map key).reverse.filter p := by
      rw [List.filter_reverse, List.mem_reverse]
    rw [max?_congr hsame, List.max?_eq_head? hdescending, List.head?_filter, ← List.map_reverse,
      List.find?_map]
    rfl
  rw [hmax]
  cases hlast : m.items.reverse.find? fun x => p (key x) with
  | none => rfl
  | some x =>
    have hmem := List.mem_reverse.1 (List.mem_of_find?_eq_some hlast)
    exact (find?_of_mem hmem).symm

/-- After an erasure nothing is found under the key, and other keys are not touched. -/
theorem find?_erase (m : SortedBy key) (k k' : String) :
    (m.erase k).find? k' = if k = k' then none else m.find? k' := by
  rw [find?, erase, List.find?_filter, find?]
  by_cases hk : k = k'
  · subst hk
    rw [if_pos rfl, List.find?_eq_none]
    simp
  · rw [if_neg hk]
    congr 1
    funext x
    by_cases hx : key x = k'
    · simp [hx, Ne.symm hk]
    · simp [hx]

/-- Collections with the same items are equal, as their order is given. -/
theorem ext_of_mem {m m' : SortedBy key} (h : ∀ x, x ∈ m.items ↔ x ∈ m'.items) : m = m' := by
  have hperm : m.items.Perm m'.items :=
    (List.perm_ext_iff_of_nodup m.keys_nodup.of_map m'.keys_nodup.of_map).2 h
  apply SortedBy.ext
  refine hperm.eq_of_pairwise (fun a b _ _ hlt hgt => ?_) m.ascending m'.ascending
  exact absurd (String.lt_trans hlt hgt) (String.lt_irrefl _)

/-- Items with different keys are only put in order. -/
theorem ofList_perm {xs : List β} (hnodup : (xs.map key).Nodup) :
    (ofList xs : SortedBy key).items.Perm xs := by
  rw [List.perm_ext_iff_of_nodup (keys_nodup _).of_map hnodup.of_map]
  intro x
  rw [ofList, mem_insertAll hnodup]
  constructor
  · rintro (hx | ⟨hx, -⟩)
    · exact hx
    · cases hx
  · exact Or.inl

/-- The items of a collection, in whatever order, make the collection. -/
theorem ofList_of_perm {m : SortedBy key} {xs : List β} (h : xs.Perm m.items) : ofList xs = m := by
  have hnodup : (xs.map key).Nodup := (h.map key).nodup_iff.2 m.keys_nodup
  exact ext_of_mem fun _ => ((ofList_perm hnodup).trans h).mem_iff

end SortedBy

/-- After an insertion a text has the value that was inserted for it, and other texts are not
touched. -/
theorem TextMap.get?_insert {α : Type u} (m : TextMap α) (key : String) (a : α) (key' : String) :
    TextMap.get? (m.insert (key, a)) key' = if key = key' then some a else m.get? key' := by
  rw [TextMap.get?, SortedBy.find?_insert]
  change Option.map _ (if key = key' then _ else _) = _
  split <;> rfl

namespace Bindings

/-! ### Single names -/

/-- Names that fold to one text are one name. -/
theorem get?_congr (vs : Bindings) {name name' : String} (h : fold name = fold name') :
    vs.get? name = vs.get? name' := by
  rw [get?, get?, h]

theorem has_eq (vs : Bindings) (name : String) : vs.has name = (vs.get? name).isSome := by
  simp [has, SortedBy.contains, get?]

theorem get?_empty (name : String) : get? .empty name = none := rfl

theorem get?_bind (vs : Bindings) (name value name' : String) :
    (vs.bind name value).get? name' =
      if fold name = fold name' then some value else vs.get? name' := by
  rw [get?, bind, SortedBy.find?_insert]
  change Option.map _ (if fold name = fold name' then _ else _) = _
  split <;> rfl

theorem get?_of_mem {vs : Bindings} {b : Binding} (h : b ∈ vs.items) :
    vs.get? b.name = some b.value := by
  have := SortedBy.find?_of_mem h
  rw [get?, show fold b.name = b.key from rfl, this]
  rfl

theorem exists_of_get? {vs : Bindings} {name value : String} (h : vs.get? name = some value) :
    ∃ b ∈ vs.items, fold b.name = fold name ∧ b.value = value := by
  obtain ⟨b, hb, hvalue⟩ := Option.map_eq_some_iff.1 h
  obtain ⟨hmem, hkey⟩ := SortedBy.mem_of_find? hb
  exact ⟨b, hmem, hkey, hvalue⟩

theorem mem_keys {vs : Bindings} {name : String} :
    fold name ∈ vs.items.map Binding.key ↔ vs.has name := by
  rw [has_eq, List.mem_map, Option.isSome_iff_exists]
  constructor
  · rintro ⟨b, hb, hname⟩
    exact ⟨b.value, (vs.get?_congr hname).symm.trans (get?_of_mem hb)⟩
  · rintro ⟨value, hvalue⟩
    obtain ⟨b, hb, hname, -⟩ := exists_of_get? hvalue
    exact ⟨b, hb, hname⟩

/-- A name is bound by some binding of a list that was inserted, or it was bound before. -/
theorem get?_insertAll_eq_none {vs : Bindings} {bs : List Binding} {name : String}
    (h : ∀ b ∈ bs, fold b.name ≠ fold name) :
    get? (SortedBy.insertAll bs vs) name = vs.get? name := by
  induction bs generalizing vs with
  | nil => rfl
  | cons b bs ih =>
    rw [SortedBy.insertAll_cons, ih fun b' hb' => h b' (List.mem_cons_of_mem _ hb')]
    exact (get?_bind vs b.name b.value name).trans (if_neg (h b List.mem_cons_self))

/-- Where no two bindings of a list have one name, inserting them binds them all. -/
theorem get?_insertAll_of_mem {vs : Bindings} {bs : List Binding} {b : Binding}
    (hnodup : (bs.map Binding.key).Nodup) (h : b ∈ bs) :
    get? (SortedBy.insertAll bs vs) b.name = some b.value := by
  induction bs generalizing vs with
  | nil => cases h
  | cons b' bs ih =>
    rw [List.map_cons, List.nodup_cons] at hnodup
    rw [SortedBy.insertAll_cons]
    rcases List.mem_cons.1 h with rfl | h
    · rw [get?_insertAll_eq_none]
      · exact (get?_bind vs b.name b.value b.name).trans (if_pos rfl)
      · exact fun b'' hb'' heq => hnodup.1 (List.mem_map.2 ⟨b'', hb'', heq⟩)
    · exact ih hnodup.2 h

/-- Taking away other names does not touch a name. -/
theorem get?_filter {vs : Bindings} {keep : Binding → Bool} {name : String}
    (h : ∀ b ∈ vs.items, fold b.name = fold name → keep b) :
    get? (vs.filter keep) name = vs.get? name := by
  have hfind (bs : List Binding) (h : ∀ b ∈ bs, fold b.name = fold name → keep b) :
      (bs.filter keep).find? (fun b => b.key == fold name) =
        bs.find? fun b => b.key == fold name := by
    induction bs with
    | nil => rfl
    | cons b bs ih =>
      rw [List.forall_mem_cons] at h
      rw [List.filter_cons, List.find?_cons]
      cases hkey : b.key == fold name with
      | true => rw [if_pos (h.1 (beq_iff_eq.1 hkey)), List.find?_cons, hkey]
      | false =>
        split
        · rw [List.find?_cons, hkey]
          exact ih h.2
        · exact ih h.2
  exact congrArg (Option.map Binding.value) (hfind vs.items h)

/-! ### Defaults -/

/-- One default counts where nothing else is bound. -/
theorem get?_addDefault (vs : Bindings) (b : Binding) (name : String) :
    (if vs.has b.name then vs else vs.bind b.name b.value).get? name =
      (vs.get? name).or (if fold b.name = fold name then some b.value else none) := by
  by_cases hname : fold b.name = fold name
  · rw [if_pos hname, has_eq, get?_congr vs hname]
    cases h : vs.get? name with
    | none => exact (get?_bind vs b.name b.value name).trans (if_pos hname)
    | some value => exact h
  · rw [if_neg hname, Option.or_none]
    split
    · rfl
    · exact (get?_bind vs b.name b.value name).trans (if_neg hname)

/-- Defaults count where nothing else is bound. -/
theorem get?_withDefaults (vs defaults : Bindings) (name : String) :
    (vs.withDefaults defaults).get? name = (vs.get? name).or (defaults.get? name) := by
  have hitems (bs : List Binding) (vs : Bindings) :
      get? (bs.foldl (fun all b => if all.has b.name then all else all.bind b.name b.value) vs) name =
        (vs.get? name).or ((bs.find? fun b => b.key == fold name).map Binding.value) := by
    induction bs generalizing vs with
    | nil => simp
    | cons b bs ih =>
      rw [List.foldl_cons, ih, get?_addDefault, Option.or_assoc, List.find?_cons]
      by_cases hname : fold b.name = fold name
      · have hkey : (b.key == fold name) = true := beq_iff_eq.2 hname
        rw [hkey, if_pos hname]
        rfl
      · have hkey : (b.key == fold name) = false := beq_eq_false_iff_ne.2 hname
        rw [hkey, if_neg hname, Option.none_or]
  exact hitems defaults.items vs

theorem has_bind (vs : Bindings) (name value name' : String) :
    (vs.bind name value).has name' = false ↔ fold name ≠ fold name' ∧ vs.has name' = false := by
  rw [has_eq, get?_bind, has_eq]
  split <;> simp [*]

/-- With defaults there are the values and the defaults of the names without one. -/
theorem mem_withDefaults {vs defaults : Bindings} {b : Binding} :
    b ∈ (vs.withDefaults defaults).items ↔
      b ∈ vs.items ∨ (b ∈ defaults.items ∧ vs.has b.name = false) := by
  have hitems (bs : List Binding) (vs : Bindings) (hnodup : (bs.map Binding.key).Nodup) :
      b ∈ (bs.foldl
          (fun all b => if all.has b.name then all else all.bind b.name b.value) vs).items ↔
        b ∈ vs.items ∨ (b ∈ bs ∧ vs.has b.name = false) := by
    induction bs generalizing vs with
    | nil => simp
    | cons b' bs ih =>
      rw [List.map_cons, List.nodup_cons] at hnodup
      rw [List.foldl_cons, ih _ hnodup.2, List.mem_cons]
      have hother (hb : b ∈ bs) : fold b'.name ≠ fold b.name :=
        fun heq => hnodup.1 (List.mem_map.2 ⟨b, hb, heq.symm⟩)
      cases hhas : vs.has b'.name with
      | true =>
        rw [if_pos rfl]
        refine or_congr_right (and_congr_left fun hb => ⟨Or.inr, fun hmem => ?_⟩)
        rcases hmem with rfl | hmem
        · rw [hhas] at hb
          cases hb
        · exact hmem
      | false =>
        rw [if_neg Bool.false_ne_true, has_bind]
        have hmem : b ∈ (vs.bind b'.name b'.value).items ↔
            b = b' ∨ (b ∈ vs.items ∧ b'.key ≠ b.key) := SortedBy.mem_insert
        rw [hmem]
        constructor
        · rintro ((rfl | ⟨hb, -⟩) | ⟨hb, -, hnone⟩)
          · exact Or.inr ⟨Or.inl rfl, hhas⟩
          · exact Or.inl hb
          · exact Or.inr ⟨Or.inr hb, hnone⟩
        · rintro (hb | ⟨rfl | hb, hnone⟩)
          · -- the name of a value that is there has no default to be bound
            refine Or.inl (Or.inr ⟨hb, fun heq => ?_⟩)
            rw [has_eq, get?_congr vs heq, get?_of_mem hb] at hhas
            cases hhas
          · exact Or.inl (Or.inl rfl)
          · exact Or.inr ⟨hb, hother hb, hnone⟩
  exact hitems defaults.items vs defaults.keys_nodup

end Bindings

/-! ### Values of a link request -/

/-- The value that the current request has for a name which is not asked with. -/
def inherited? (ambientValues values : Bindings) (name : String) : Option String :=
  if values.has name then none else ambientValues.nonEmpty? name

/-- The value that a name is given: the one asked with, or else the one of the current request. -/
def supplied? (ambientValues values : Bindings) (name : String) : Option String :=
  (values.nonEmpty? name).or (inherited? ambientValues values name)

end UrlRouting
