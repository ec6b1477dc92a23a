/-!
# Collections in key order

A `SortedBy key` is a list without two items of the same key, in ascending order of their
keys. Inserting an item replaces the one that has its key. The order is part of the type, so
a collection is determined by the items that `find?` finds, whatever the order in which they
were inserted.
-/

namespace UrlRouting

/-- Items in ascending order of their keys, one item a key. -/
@[ext] structure SortedBy {β : Type u} (key : β → String) where
  /-- The items in order. -/
  items : List β
  /-- No two items have one key, and smaller keys come first. -/
  ascending : items.Pairwise fun a b => key a < key b

namespace SortedBy

variable {β : Type u} {key : β → String}

/-- No items. -/
def empty : SortedBy key := ⟨[], .nil⟩

instance : Inhabited (SortedBy key) := ⟨empty⟩

instance : EmptyCollection (SortedBy key) := ⟨empty⟩

instance [DecidableEq β] : DecidableEq (SortedBy key) := fun a b =>
  decidable_of_iff (a.items = b.items) ⟨fun h => SortedBy.ext h, fun h => h ▸ rfl⟩

/-- Puts `x` at its place in an ascending list, in place of the item of the same key. -/
def place (key : β → String) (x : β) : List β → List β
  | [] => [x]
  | y :: ys =>
    if key x < key y then x :: y :: ys
    else if key x = key y then x :: ys
    else y :: place key x ys

theorem mem_place {x z : β} {ys : List β} (h : z ∈ place key x ys) : z = x ∨ z ∈ ys := by
  induction ys with
  | nil => simpa [place] using h
  | cons y ys ih =>
    simp only [place] at h
    split at h
    · simpa using h
    · split at h
      · simp only [List.mem_cons] at h ⊢
        exact h.imp id Or.inr
      · simp only [List.mem_cons] at h ⊢
        rcases h with rfl | h
        · exact Or.inr (Or.inl rfl)
        · exact (ih h).imp id Or.inr

theorem pairwise_place (x : β) {ys : List β} (h : ys.Pairwise fun a b => key a < key b) :
    (place key x ys).Pairwise fun a b => key a < key b := by
  induction ys with
  | nil => simp [place]
  | cons y ys ih =>
    rw [List.pairwise_cons] at h
    simp only [place]
    split
    next hlt =>
      refine List.pairwise_cons.2 ⟨fun z hz => ?_, List.pairwise_cons.2 h⟩
      rcases List.mem_cons.1 hz with rfl | hz
      · exact hlt
      · exact String.lt_trans hlt (h.1 z hz)
    next hlt =>
      split
      next heq => exact List.pairwise_cons.2 ⟨fun z hz => heq ▸ h.1 z hz, h.2⟩
      next hne =>
        refine List.pairwise_cons.2 ⟨fun z hz => ?_, ih h.2⟩
        rcases mem_place hz with rfl | hz
        · rcases Std.lt_trichotomy (key z) (key y) with h' | h' | h'
          · exact absurd h' hlt
          · exact absurd h' hne
          · exact h'
        · exact h.1 z hz

/-- Adds an item, in place of the one that has its key. -/
def insert (x : β) (m : SortedBy key) : SortedBy key :=
  ⟨place key x m.items, pairwise_place x m.ascending⟩

/-- The item of a key. -/
def find? (m : SortedBy key) (k : String) : Option β := m.items.find? fun x => key x == k

/-- Whether there is an item of a key. -/
def contains (m : SortedBy key) (k : String) : Bool := (m.find? k).isSome

/-- All items but the one of a key. -/
def erase (k : String) (m : SortedBy key) : SortedBy key :=
  ⟨m.items.filter fun x => key x != k, m.ascending.filter _⟩

/-- The items that satisfy `p`. -/
def filter (p : β → Bool) (m : SortedBy key) : SortedBy key :=
  ⟨m.items.filter p, m.ascending.filter _⟩

/-- How many items there are. -/
def size (m : SortedBy key) : Nat := m.items.length

/-- Whether there is no item. -/
def isEmpty (m : SortedBy key) : Bool := m.items.isEmpty

/-- Inserts items one after another. -/
def insertAll (xs : List β) (m : SortedBy key) : SortedBy key :=
  xs.foldl (fun m x => m.insert x) m

/-- The collection of some items; of two with the same key the later one counts. -/
def ofList (xs : List β) : SortedBy key := empty.insertAll xs

@[simp] theorem items_empty : (empty : SortedBy key).items = [] := rfl

@[simp] theorem items_insert (x : β) (m : SortedBy key) :
    (m.insert x).items = place key x m.items := rfl

@[simp] theorem insertAll_nil (m : SortedBy key) : m.insertAll [] = m := rfl

@[simp] theorem insertAll_cons (x : β) (xs : List β) (m : SortedBy key) :
    m.insertAll (x :: xs) = (m.insert x).insertAll xs := rfl

end SortedBy

/-- A map from texts to values, in ascending order of the texts. -/
abbrev TextMap (α : Type u) := SortedBy (β := String × α) Prod.fst

namespace TextMap

variable {α : Type u}

/-- The value of a key. -/
def get? (m : TextMap α) (k : String) : Option α := (m.find? k).map Prod.snd

end TextMap

end UrlRouting
