import Mathlib.Data.Set.Card
import UrlRouting.Bindings.Json
import UrlRouting.Proofs.Bindings
import UrlRouting.Proofs.Text.Folding

/-!
# Route values as a map

An `Edit` is something that is done to route values: a name is bound or taken away, other values
are merged in, or the values are replaced by those of some pairs or of a document. Beside the route
values runs a plain function from folded names to bindings (`Contents`). What the edits answer and
what can be seen of the values afterwards is read off this function (`Bindings.seen_of_edits`).
-/

namespace UrlRouting

open Text

/-- Something that is done to route values. -/
inductive Edit where
  /-- A name is bound. -/
  | insert (name value : String)
  /-- A name is taken away. -/
  | remove (name : String)
  /-- The values that some edits make of none are merged in. -/
  | merge (edits : List Edit)
  /-- The values are those of some pairs. -/
  | collect (pairs : List (String × String))
  /-- The values are those of a document, if it is an object of texts. -/
  | read (document : Json)

/-- What an edit answers. -/
inductive Edit.Answer where
  /-- Nothing. -/
  | done
  /-- The value that the name had before. -/
  | previous (value? : Option String)
  /-- The document is no object of texts. -/
  | refused
deriving Repr, DecidableEq

mutual

/-- What an edit of some values answers, and the values after it. -/
def Edit.apply (vs : Bindings) : Edit → Edit.Answer × Bindings
  | .insert name value => (.previous (vs.get? name), vs.bind name value)
  | .remove name => (.previous (vs.get? name), vs.unbind name)
  | .merge edits => (.done, vs.merge (Edit.applyAll .empty edits).2)
  | .collect pairs => (.done, .ofPairs pairs)
  | .read document =>
    match Bindings.ofJson? document with
    | some vs' => (.done, vs')
    | none => (.refused, vs)

/-- What edits of some values answer one after another, and the values after all of them. -/
def Edit.applyAll (vs : Bindings) : List Edit → List Edit.Answer × Bindings
  | [] => ([], vs)
  | e :: edits =>
    let step := e.apply vs
    let rest := Edit.applyAll step.2 edits
    (step.1 :: rest.1, rest.2)

end

/-! ### The map -/

/-- The binding of each folded name: the spelling and the value that were stored last. -/
abbrev Contents := String → Option Binding

namespace Contents

/-- The map of some pairs: the last pair of a name counts. -/
def ofPairs (pairs : List (String × String)) : Contents := fun k =>
  (pairs.reverse.find? fun pair => fold pair.1 == k).map fun pair => ⟨pair.1, pair.2⟩

/-- The map of the members of an object: of the spellings of a name the greatest one counts, and of
the members of one spelling the last one. -/
def ofMembers (members : List (String × String)) : Contents := fun k =>
  ((members.map Prod.fst).filter fun name => fold name == k).max?.bind fun name =>
    (members.reverse.find? fun member => member.1 == name).map fun member => ⟨member.1, member.2⟩

end Contents

/-- A member that is a text. -/
def textMember? (member : String × Json) : Option (String × String) :=
  member.2.text?.map fun value => (member.1, value)

/-- The members of a document that is an object of texts. -/
def textMembersOf? : Json → Option (List (String × String))
  | .object members => members.mapM textMember?
  | _ => none

mutual

/-- What an edit does to a map. -/
def Edit.record (m : Contents) : Edit → Edit.Answer × Contents
  | .insert name value =>
    (.previous ((m (fold name)).map Binding.value),
      Function.update m (fold name) (some ⟨name, value⟩))
  | .remove name =>
    (.previous ((m (fold name)).map Binding.value), Function.update m (fold name) none)
  | .merge edits => (.done, fun k => ((Edit.recordAll (fun _ => none) edits).2 k).or (m k))
  | .collect pairs => (.done, .ofPairs pairs)
  | .read document =>
    match textMembersOf? document with
    | some members => (.done, .ofMembers members)
    | none => (.refused, m)

/-- What edits do to a map one after another. -/
def Edit.recordAll (m : Contents) : List Edit → List Edit.Answer × Contents
  | [] => ([], m)
  | e :: edits =>
    let step := e.record m
    let rest := Edit.recordAll step.2 edits
    (step.1 :: rest.1, rest.2)

end

/-! ### One edit -/

namespace Bindings

/-- The values hold what a map says. -/
def Holds (vs : Bindings) (m : Contents) : Prop := ∀ k, vs.find? k = m k

variable {vs other : Bindings} {m m' : Contents}

theorem Holds.empty : Holds .empty fun _ => none := fun _ => rfl

theorem Holds.get? (h : vs.Holds m) (name : String) :
    vs.get? name = (m (fold name)).map Binding.value := by
  rw [Bindings.get?, h]

theorem Holds.bind (h : vs.Holds m) (name value : String) :
    (vs.bind name value).Holds (Function.update m (fold name) (some ⟨name, value⟩)) := by
  intro k
  rw [Bindings.bind, SortedBy.find?_insert, h, Function.update_apply]
  simp only [Binding.key, eq_comm]

theorem Holds.unbind (h : vs.Holds m) (name : String) :
    (vs.unbind name).Holds (Function.update m (fold name) none) := by
  intro k
  rw [Bindings.unbind, SortedBy.find?_erase, h, Function.update_apply]
  simp only [eq_comm]

theorem Holds.merge (h : vs.Holds m) (hother : other.Holds m') :
    (vs.merge other).Holds fun k => (m' k).or (m k) := by
  intro k
  rw [Bindings.merge, SortedBy.find?_insertAll, SortedBy.find?_reverse, h, hother]

theorem holds_ofPairs (pairs : List (String × String)) : (ofPairs pairs).Holds (.ofPairs pairs) := by
  intro k
  rw [ofPairs, SortedBy.ofList, SortedBy.find?_insertAll, ← List.map_reverse, List.find?_map]
  exact Option.or_none

/-! ### Documents -/

theorem textMembers?_eq (sofar : TextMap String) (members : List (String × Json)) :
    textMembers? sofar members =
      (textMembersOf? (.object members)).map fun texts => sofar.insertAll texts := by
  induction members generalizing sofar with
  | nil => rfl
  | cons member members ih =>
    obtain ⟨name, v⟩ := member
    cases v with
    | text value =>
      rw [textMembers?, ih, textMembersOf?, textMembersOf?, List.mapM_cons]
      cases members.mapM textMember? <;> rfl
    | _ => rw [textMembersOf?, List.mapM_cons]; rfl

theorem ofJson?_eq (document : Json) :
    ofJson? document = (textMembersOf? document).map fun texts =>
      ofPairs (SortedBy.ofList texts : TextMap String).items := by
  cases document with
  | object members => rw [ofJson?, textMembers?_eq, Option.map_map]; rfl
  | _ => rfl

theorem find?_ofMembers (members : List (String × String)) (name : String) :
    (SortedBy.ofList members : TextMap String).find? name =
      members.reverse.find? fun member => member.1 == name := by
  rw [SortedBy.ofList, SortedBy.find?_insertAll]
  exact Option.or_none

theorem mem_names_ofMembers {members : List (String × String)} {name : String} :
    name ∈ (SortedBy.ofList members : TextMap String).items.map Prod.fst ↔
      name ∈ members.map Prod.fst := by
  rw [← SortedBy.isSome_find?, find?_ofMembers, List.find?_isSome]
  simp

/-- Inserting the members in the order of their spellings lets the greatest spelling of a name
count. -/
theorem holds_ofMembers (members : List (String × String)) :
    (ofPairs (SortedBy.ofList members : TextMap String).items).Holds (.ofMembers members) := by
  intro k
  have hmax : ((members.map Prod.fst).filter fun name => fold name == k).max? =
      (((SortedBy.ofList members : TextMap String).items.map Prod.fst).filter
        fun name => fold name == k).max? := by
    apply SortedBy.max?_congr
    intro name
    rw [List.mem_filter, List.mem_filter, mem_names_ofMembers]
  rw [holds_ofPairs, Contents.ofPairs, Contents.ofMembers, hmax,
    SortedBy.find?_last _ fun name => fold name == k, Option.map_bind]
  congr 1
  funext name
  exact congrArg _ (find?_ofMembers members name)

/-- A document of all values, in whatever order, is read as these values. -/
theorem ofJson?_perm {bs : List Binding} (h : bs.Perm vs.items) :
    ofJson? (.object (bs.map fun b => (b.name, .text b.value))) = some vs := by
  have htexts : textMembersOf? (.object (bs.map fun b => (b.name, .text b.value))) =
      some (bs.map fun b => (b.name, b.value)) := by
    rw [textMembersOf?]
    clear h
    induction bs with
    | nil => rfl
    | cons b bs ih => rw [List.map_cons, List.mapM_cons, ih]; rfl
  rw [ofJson?_eq, htexts, Option.map_some, Option.some_inj]
  -- the spellings differ, as they do when they are folded
  have hnames : ((bs.map fun b => (b.name, b.value)).map Prod.fst).Nodup := by
    rw [List.map_map]
    refine List.Nodup.of_map fold ?_
    rw [List.map_map]
    exact (h.map Binding.key).nodup_iff.2 vs.keys_nodup
  have hmap : (SortedBy.ofList (bs.map fun b => (b.name, b.value)) : TextMap String).items.Perm
      (bs.map fun b => (b.name, b.value)) := SortedBy.ofList_perm hnames
  apply SortedBy.ofList_of_perm
  refine (hmap.map _).trans ?_
  rw [List.map_map]
  exact (List.map_id bs).symm ▸ h

/-! ### What can be seen -/

/-- Values agree if and only if they give one answer for every name. -/
theorem agree_iff (vs other : Bindings) :
    vs.agree other ↔ ∀ name, vs.get? name = other.get? name := by
  rw [agree, beq_iff_eq]
  constructor
  · intro h name
    have hvalue (vs : Bindings) : vs.get? name =
        ((vs.items.map fun b => (b.key, b.value)).find? fun pair => pair.1 == fold name).map
          Prod.snd := by
      rw [List.find?_map, Option.map_map]
      rfl
    rw [hvalue, h, ← hvalue]
  · intro h
    -- keys and values in order make a map of texts
    have hascending (vs : Bindings) :
        (vs.items.map fun b => (b.key, b.value)).Pairwise fun a b => a.1 < b.1 :=
      List.pairwise_map.2 vs.ascending
    have hsub {vs other : Bindings} (h : ∀ name, vs.get? name = other.get? name) :
        ∀ pair ∈ vs.items.map fun b => (b.key, b.value),
          pair ∈ other.items.map fun b => (b.key, b.value) := by
      intro pair hpair
      obtain ⟨b, hb, rfl⟩ := List.mem_map.1 hpair
      have hget := get?_of_mem hb
      rw [h] at hget
      obtain ⟨b', hb', hname, hvalue⟩ := exists_of_get? hget
      exact List.mem_map.2 ⟨b', hb', Prod.ext hname hvalue⟩
    have hsame : (⟨_, hascending vs⟩ : TextMap String) = ⟨_, hascending other⟩ :=
      SortedBy.ext_of_mem fun pair => ⟨hsub h pair, hsub (fun name => (h name).symm) pair⟩
    exact congrArg SortedBy.items hsame

theorem Holds.mem_iff (h : vs.Holds m) (b : Binding) : b ∈ vs.items ↔ m b.key = some b := by
  rw [SortedBy.mem_iff_find?, h]

theorem Holds.has (h : vs.Holds m) (name : String) : vs.has name = (m (fold name)).isSome := by
  rw [Bindings.has, SortedBy.contains, h]

/-- There are as many values as names that have one. -/
theorem Holds.size (h : vs.Holds m) : {k | (m k).isSome}.encard = vs.size := by
  have hnames : {k | (m k).isSome} = ((vs.items.map Binding.key).toFinset : Set String) := by
    ext k
    rw [List.coe_toFinset, Set.mem_ofPred_eq, Set.mem_ofPred_eq, ← h k, SortedBy.isSome_find?]
  rw [hnames, Set.encard_coe_eq_coe_finsetCard, List.toFinset_card_of_nodup vs.keys_nodup,
    List.length_map]
  rfl

/-- No two names are equal up to case. -/
theorem pairwise_not_sameText (vs : Bindings) :
    vs.items.Pairwise fun b b' => ¬ sameText b.name b'.name := by
  refine (List.pairwise_map.1 vs.keys_nodup).imp fun hne hsame => ?_
  exact hne (sameText_iff.1 hsame)

/-! ### Edits one after another -/

mutual

/-- An edit does to the values what it does to the map, and answers the same. -/
theorem Holds.apply {vs : Bindings} {m : Contents} (h : vs.Holds m) (e : Edit) :
    (e.apply vs).1 = (e.record m).1 ∧ (e.apply vs).2.Holds (e.record m).2 :=
  match e with
  | .insert name value => ⟨congrArg _ (h.get? name), h.bind name value⟩
  | .remove name => ⟨congrArg _ (h.get? name), h.unbind name⟩
  | .merge edits => ⟨rfl, h.merge (Holds.empty.applyAll edits).2⟩
  | .collect pairs => ⟨rfl, holds_ofPairs pairs⟩
  | .read document => by
    rw [Edit.apply, Edit.record, ofJson?_eq]
    cases textMembersOf? document with
    | none => exact ⟨rfl, h⟩
    | some members => exact ⟨rfl, holds_ofMembers members⟩

/-- So do edits one after another. -/
theorem Holds.applyAll {vs : Bindings} {m : Contents} (h : vs.Holds m) (edits : List Edit) :
    (Edit.applyAll vs edits).1 = (Edit.recordAll m edits).1 ∧
      (Edit.applyAll vs edits).2.Holds (Edit.recordAll m edits).2 :=
  match edits with
  | [] => ⟨rfl, h⟩
  | e :: edits => by
    obtain ⟨hanswer, hstep⟩ := h.apply e
    obtain ⟨hanswers, hrest⟩ := hstep.applyAll edits
    rw [Edit.applyAll, Edit.recordAll]
    exact ⟨congrArg₂ List.cons hanswer hanswers, hrest⟩

end

/-- **Route values are a map whose names are compared without regard to case**: edits of no values
answer what they answer on the map, and leave the values that it says. The folded names ascend, so
that no two names are equal up to case; the items, the number of values and what is found under a
name are those of the map. Values agree with others if and only if both give one answer for every
name, and they are read back from the document that is written of them. -/
theorem seen_of_edits (edits : List Edit) :
    let vs := (Edit.applyAll .empty edits).2
    let m := (Edit.recordAll (fun _ => none) edits).2
    (Edit.applyAll .empty edits).1 = (Edit.recordAll (fun _ => none) edits).1 ∧
    (vs.items.map Binding.key).Pairwise (· < ·) ∧
    (vs.items.Pairwise fun b b' => ¬ sameText b.name b'.name) ∧
    (∀ b, b ∈ vs.items ↔ m b.key = some b) ∧
    (∀ name, vs.get? name = (m (fold name)).map Binding.value ∧
      vs.has name = (m (fold name)).isSome) ∧
    {k | (m k).isSome}.encard = vs.size ∧
    (∀ other, vs.agree other ↔ ∀ name, vs.get? name = other.get? name) ∧
    ofJson? vs.toJson = some vs := by
  intro vs m
  obtain ⟨hanswers, hholds⟩ := Holds.empty.applyAll edits
  exact ⟨hanswers, List.pairwise_map.2 vs.ascending, pairwise_not_sameText vs, hholds.mem_iff,
    fun name => ⟨hholds.get? name, hholds.has name⟩, hholds.size, agree_iff vs,
    ofJson?_perm (.refl _)⟩

/-- Of two spellings in a document the greater one counts, not the one that stands last. -/
example : (Edit.applyAll .empty
    [.read (.object [("id", .text "1"), ("ID", .text "2")])]).2.items = [⟨"id", "1"⟩] := by
  decide +kernel

end Bindings

end UrlRouting
