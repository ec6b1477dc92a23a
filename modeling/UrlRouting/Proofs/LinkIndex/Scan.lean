import UrlRouting.LinkIndex.Basic
import UrlRouting.Proofs.Bindings
import UrlRouting.Proofs.LinkIndex.BitSet
import UrlRouting.Proofs.StableSort
import UrlRouting.Proofs.Text.Folding

/-!
# Finding link entries is a scan

An index numbers names, keeps sets of numbers as bits, gathers entries in groups and decides about
a group before it looks at values. `LinkIndex.scan` does without all this: it reads each requirement
of each entry off the values (`Requirement.isMet`), keeps the entries all of whose requirements are
met and sorts them. The two agree (`LinkIndex.candidates_eq_scan`): numbers stand for names
(`supply_number`), a group is closed only to entries that are not met (`answer_ofOutbound`), and the
groups together hold each entry once (`perm_ofEntries`).
-/

namespace UrlRouting

open Text

/-! ### Requirements -/

/-- Whether a requirement is met, where an entry with some defaults is asked with `values` in a
request with `ambientValues`. A default counts where no value is given. -/
def Requirement.isMet (defaults ambientValues values : Bindings) (name : String) :
    Requirement → Bool
  | .exact text =>
    match supplied? ambientValues values name with
    | some value => sameText value text
    | none => (defaults.nonEmpty? name).any fun default => sameText default text
  | .any => (supplied? ambientValues values name).isSome || (defaults.nonEmpty? name).isSome
  | .absent => (values.nonEmpty? name).isNone

namespace Outbound

/-- Whether all requirements of an entry are met. -/
def isViable (e : Outbound) (ambientValues values : Bindings) : Bool :=
  e.requirements.all fun (name, r) => r.isMet e.pattern.defaults ambientValues values name

/-- Whether an entry that needs some name given has its value from the current request. -/
def isFallback (e : Outbound) (ambientValues values : Bindings) : Bool :=
  e.requirements.any fun (name, r) =>
    r != .absent && (inherited? ambientValues values name).isSome

/-- How many names an entry needs given. -/
def weight (e : Outbound) : Nat := e.requirements.countP fun (_, r) => r != .absent

end Outbound

/-- Compares two candidates: those that need more names given come first, then those that need no
value of the current request, then greater ranks, then texts in order up to case. -/
def Candidate.compareViable (a b : Candidate) : Ordering :=
  (compare b.entry.weight a.entry.weight).then <|
    (compare a.isFallback b.isFallback).then <|
      (compare b.entry.pattern.template.linkRank a.entry.pattern.template.linkRank).then <|
        compare (fold a.entry.templateText) (fold b.entry.templateText)

/-- The entries all of whose requirements are met, sorted; entries that the comparison does not tell
apart stay in the order in which they were registered. -/
def LinkIndex.scan (es : List Outbound) (ambientValues values : Bindings) : List Candidate :=
  ((es.zipIdx.filter fun (e, _) => e.isViable ambientValues values).map fun (e, position) =>
    { entry := e, position, isFallback := e.isFallback ambientValues values }).mergeSort
      fun a b => (a.compareViable b).isLE

/-! ### How names are given -/

namespace Supply

variable {ambientValues values : Bindings} {name : String}

/-- The value that a name is given. -/
def value? : Supply → Option String
  | explicit value => some value
  | ambient value => some value
  | missing => none

theorem isGiven_eq (s : Supply) : s.isGiven = s.value?.isSome := by cases s <;> rfl

theorem value?_find : (find ambientValues values name).value? =
    supplied? ambientValues values name := by
  unfold find supplied? inherited? Bindings.nonEmpty?
  rw [Bindings.has_eq]
  cases values.get? name with
  | some value => by_cases h : value = "" <;> simp [h, value?, Option.filter]
  | none => cases (ambientValues.get? name).filter fun v => !v.isEmpty <;> simp [value?]

theorem isExplicit_find : (find ambientValues values name).isExplicit =
    (values.nonEmpty? name).isSome := by
  unfold find Bindings.nonEmpty?
  cases values.get? name with
  | some value => by_cases h : value = "" <;> simp [h, isExplicit]
  | none => cases (ambientValues.get? name).filter fun v => !v.isEmpty <;> simp [isExplicit]

theorem isAmbient_find : (find ambientValues values name).isAmbient =
    (inherited? ambientValues values name).isSome := by
  unfold find inherited? Bindings.nonEmpty?
  rw [Bindings.has_eq]
  cases values.get? name with
  | some value => by_cases h : value = "" <;> simp [h, isAmbient]
  | none => cases (ambientValues.get? name).filter fun v => !v.isEmpty <;> simp [isAmbient]

/-- A name is given in the same way whether it is folded or not. -/
theorem find_fold : find ambientValues values (fold name) = find ambientValues values name := by
  simp only [find, Bindings.nonEmpty?, Bindings.get?_congr _ (fold_fold name)]

end Supply

theorem Demand.isMetBy_eq (d : Demand) (s : Supply) :
    d.isMetBy s = match s.value? with
      | some value => d.wanted?.all (sameText value)
      | none => d.metByDefault := by
  cases s <;> rfl

/-! ### Numbers of names -/

/-- Gathering names that are new loses none of them. -/
theorem mem_gathered {names keys : List String} {key : String} (h : key ∈ keys ∨ key ∈ names) :
    key ∈ names.foldl (fun keys key => if keys.contains key then keys else keys ++ [key])
      keys := by
  induction names generalizing keys with
  | nil => exact h.resolve_right List.not_mem_nil
  | cons n names ih =>
    rw [List.mem_cons] at h
    rw [List.foldl_cons]
    refine ih ?_
    split
    next hn =>
      rcases h with h | rfl | h
      · exact Or.inl h
      · exact Or.inl (List.contains_iff_mem.1 hn)
      · exact Or.inr h
    next => rwa [List.mem_append, List.mem_singleton, or_assoc]

/-- The names of the requirements are in the vocabulary. -/
theorem fold_mem_vocabulary {es : List Outbound} {e : Outbound} (he : e ∈ es) {name : String}
    {r : Requirement} (h : (name, r) ∈ e.requirements) : fold name ∈ vocabulary es := by
  refine mem_gathered (Or.inr (List.mem_flatMap.2 ⟨e, he, ?_⟩))
  exact List.mem_map.2 ⟨(name, r), h, rfl⟩

/-- The number of a name leads to the way in which it is given. -/
theorem supply_number {keys : List String} {ambientValues values : Bindings} {name : String}
    (h : fold name ∈ keys) :
    (keys.map (Supply.find ambientValues values))[keys.idxOf (fold name)]?.getD .missing =
      Supply.find ambientValues values name := by
  rw [List.getElem?_map, List.getElem?_idxOf h, Option.map_some, Option.getD_some,
    Supply.find_fold]

section

variable {supplies : List Supply} (p : Supply → Bool)

theorem contains_numbersWhere {i : Nat} (h : i < supplies.length) :
    (LinkIndex.numbersWhere p supplies).contains i = p (supplies[i]?.getD .missing) := by
  unfold LinkIndex.numbersWhere
  rw [BitSet.contains_ofList, Bool.eq_iff_iff, decide_eq_true_iff, List.mem_map]
  · simp only [List.mem_filter, List.mem_zipIdx_iff_getElem?, Prod.exists]
    constructor
    · rintro ⟨s, j, ⟨hs, hp⟩, rfl⟩
      rwa [hs, Option.getD_some]
    · intro hp
      refine ⟨supplies[i], i, ⟨List.getElem?_eq_getElem h, ?_⟩, rfl⟩
      rwa [List.getElem?_eq_getElem h, Option.getD_some] at hp
  · intro j hj
    obtain ⟨⟨s, j⟩, hmem, rfl⟩ := List.mem_map.1 hj
    have hs := List.mem_zipIdx_iff_getElem?.1 (List.mem_filter.1 hmem).1
    exact (List.getElem?_eq_some_iff.1 hs).1

variable {n : Nat} {is : List Nat}

theorem isSubset_numbersWhere (hn : supplies.length = n) (h : ∀ i ∈ is, i < n) :
    (BitSet.ofList n is).isSubset (LinkIndex.numbersWhere p supplies) ↔
      ∀ i ∈ is, p (supplies[i]?.getD .missing) := by
  subst hn
  rw [BitSet.isSubset_iff (by simp [LinkIndex.numbersWhere])]
  simp only [BitSet.contains_ofList h, decide_eq_true_iff]
  refine forall₂_congr fun i hi => ?_
  rw [contains_numbersWhere p (h i hi)]

theorem isDisjoint_numbersWhere (hn : supplies.length = n) (h : ∀ i ∈ is, i < n) :
    (BitSet.ofList n is).isDisjoint (LinkIndex.numbersWhere p supplies) ↔
      ∀ i ∈ is, p (supplies[i]?.getD .missing) = false := by
  subst hn
  rw [BitSet.isDisjoint_iff (by simp [LinkIndex.numbersWhere])]
  simp only [BitSet.contains_ofList h, decide_eq_true_iff]
  refine forall₂_congr fun i hi => ?_
  rw [contains_numbersWhere p (h i hi)]

end

/-! ### Groups -/

/-- The entries of a group have its names. -/
def LinkGroup.Fits (keys : List String) (g : LinkGroup) : Prop :=
  ∀ e ∈ g.entries, e.required keys = g.required ∧ e.absent keys = g.absent

section

variable {keys : List String} {e : IndexedEntry}

theorem fits_addToGroups {gs : List LinkGroup} (h : ∀ g ∈ gs, g.Fits keys) :
    ∀ g ∈ addToGroups (e.required keys) (e.absent keys) e gs, g.Fits keys := by
  induction gs with
  | nil =>
    intro g hg e' he'
    obtain rfl := List.mem_singleton.1 hg
    obtain rfl := List.mem_singleton.1 he'
    exact ⟨rfl, rfl⟩
  | cons g gs ih =>
    rw [List.forall_mem_cons] at h
    unfold addToGroups
    split
    next hsame =>
      refine List.forall_mem_cons.2 ⟨fun e' he' => ?_, h.2⟩
      rcases List.mem_append.1 he' with he' | he'
      · exact h.1 e' he'
      · obtain rfl := List.mem_singleton.1 he'
        exact ⟨hsame.1.symm, hsame.2.symm⟩
    next => exact List.forall_mem_cons.2 ⟨h.1, ih h.2⟩

/-- The group that an entry is added to gets it, and no other entry is touched. -/
theorem perm_addToGroups (required absent : BitSet) (gs : List LinkGroup) :
    ((addToGroups required absent e gs).flatMap (·.entries)).Perm
      (gs.flatMap (·.entries) ++ [e]) := by
  induction gs with
  | nil => exact List.Perm.refl _
  | cons g gs ih =>
    unfold addToGroups
    split
    · rw [List.flatMap_cons, List.flatMap_cons, List.append_assoc, List.append_assoc]
      exact List.perm_append_comm.append_left _
    · rw [List.flatMap_cons, List.flatMap_cons, List.append_assoc]
      exact ih.append_left _

end

/-- Entries that are added one by one stand in groups with their names, each once. -/
theorem perm_addAllToGroups {keys : List String} (l : List (Outbound × Nat)) {gs : List LinkGroup}
    (h : ∀ g ∈ gs, g.Fits keys) :
    let added := l.foldl (fun groups (e, position) =>
      let indexed := IndexedEntry.ofOutbound keys e position
      addToGroups (indexed.required keys) (indexed.absent keys) indexed groups) gs
    (∀ g ∈ added, g.Fits keys) ∧
    (added.flatMap (·.entries)).Perm (gs.flatMap (·.entries) ++
      l.map fun (e, position) => .ofOutbound keys e position) := by
  induction l generalizing gs with
  | nil => simpa using h
  | cons a l ih =>
    obtain ⟨hfits, hperm⟩ := ih (fits_addToGroups (e := .ofOutbound keys a.1 a.2) h)
    refine ⟨hfits, hperm.trans ?_⟩
    rw [List.map_cons, ← List.singleton_append, ← List.append_assoc]
    exact (perm_addToGroups _ _ _).append_right _

/-- The groups of an index hold each entry once, and the entries of each group have its names. -/
theorem LinkIndex.perm_ofEntries (es : List Outbound) :
    (∀ g ∈ (ofEntries es).groups, g.Fits (vocabulary es)) ∧
    ((ofEntries es).groups.flatMap (·.entries)).Perm
      (es.zipIdx.map fun (e, position) => .ofOutbound (vocabulary es) e position) :=
  perm_addAllToGroups es.zipIdx (List.forall_mem_nil _)

/-! ### One entry -/

/-- What an index says about an entry, by the names of the entry in place of those of its group. -/
def answer (keys : List String) (supplies : List Supply) (e : IndexedEntry) :
    Option (IndexedEntry × Bool) :=
  if LinkIndex.LinkGroup.isOpen ⟨e.required keys, e.absent keys, []⟩ supplies then
    (LinkIndex.meets? supplies e).map fun isFallback => (e, isFallback)
  else none

section

variable {keys : List String} {e : Outbound} {ambientValues values : Bindings} {name : String}
  {r : Requirement} {d : Demand} {position : Nat}

/-- A requirement is met if its demand is, or if it makes none and its name is not asked with. -/
theorem isMet_eq (keys : List String) : r.isMet e.pattern.defaults ambientValues values name =
    match demand? keys e (name, r) with
    | some d => d.isMetBy (.find ambientValues values name)
    | none => !(Supply.find ambientValues values name).isExplicit := by
  cases r with
  | exact text =>
    simp only [demand?, Demand.isMetBy_eq, Supply.value?_find, Requirement.isMet]
    cases supplied? ambientValues values name <;> simp
  | any =>
    simp only [demand?, Demand.isMetBy_eq, Supply.value?_find, Requirement.isMet]
    cases supplied? ambientValues values name <;> simp
  | absent => rw [demand?, Supply.isExplicit_find, Requirement.isMet, Option.not_isSome]

theorem isSome_demand? (keys : List String) (e : Outbound) (name : String) :
    (demand? keys e (name, r)).isSome = (r != .absent) := by
  cases r <;> rfl

theorem eq_absent_of_demand? (h : demand? keys e (name, r) = none) : r = .absent := by
  cases r with
  | absent => rfl
  | _ => cases h

theorem key_of_demand? (h : demand? keys e (name, r) = some d) :
    d.key = keys.idxOf (fold name) := by
  cases r with
  | absent => cases h
  | _ => rw [← Option.some.inj h]

/-- The number of a demand leads to the way in which its name is given. -/
theorem supply_of_demand? (hkey : fold name ∈ keys) (h : demand? keys e (name, r) = some d) :
    (keys.map (Supply.find ambientValues values))[d.key]?.getD .missing =
      Supply.find ambientValues values name := by
  rw [key_of_demand? h, supply_number hkey]

theorem mem_demands : d ∈ (IndexedEntry.ofOutbound keys e position).demands ↔
    ∃ name r, (name, r) ∈ e.requirements ∧ demand? keys e (name, r) = some d := by
  simp only [IndexedEntry.ofOutbound, List.mem_filterMap, Prod.exists]

theorem length_demands :
    (IndexedEntry.ofOutbound keys e position).demands.length = e.weight := by
  rw [IndexedEntry.ofOutbound, List.length_filterMap_eq_countP, Outbound.weight]
  exact List.countP_congr fun a _ => by rw [isSome_demand?]

variable (hkeys : ∀ name r, (name, r) ∈ e.requirements → fold name ∈ keys)

include hkeys

/-- All requirements are met if the demands are and no name that must not be asked with is. -/
theorem isViable_iff (position : Nat) : e.isViable ambientValues values ↔
    (∀ d ∈ (IndexedEntry.ofOutbound keys e position).demands,
      d.isMetBy ((keys.map (Supply.find ambientValues values))[d.key]?.getD .missing)) ∧
    ∀ name, (name, .absent) ∈ e.requirements →
      (Supply.find ambientValues values name).isExplicit = false := by
  simp only [Outbound.isViable, List.all_eq_true, Prod.forall, isMet_eq keys, mem_demands]
  constructor
  · intro h
    refine ⟨?_, fun name hr => by simpa [demand?] using h name _ hr⟩
    rintro d ⟨name, r, hr, hd⟩
    have hmet := h name r hr
    rw [hd] at hmet
    rwa [supply_of_demand? (hkeys name r hr) hd]
  · rintro ⟨hdemands, habsent⟩ name r hr
    cases hd : demand? keys e (name, r) with
    | some d =>
      rw [← supply_of_demand? (hkeys name r hr) hd]
      exact hdemands d ⟨name, r, hr, hd⟩
    | none =>
      obtain rfl := eq_absent_of_demand? hd
      simp [habsent name hr]

theorem isFallback_eq : e.isFallback ambientValues values =
    (IndexedEntry.ofOutbound keys e position).demands.any fun d =>
      ((keys.map (Supply.find ambientValues values))[d.key]?.getD .missing).isAmbient := by
  rw [Bool.eq_iff_iff]
  simp only [Outbound.isFallback, List.any_eq_true, Prod.exists, Bool.and_eq_true, mem_demands]
  constructor
  · rintro ⟨name, r, hr, hdemand, hambient⟩
    rw [← isSome_demand? keys e name] at hdemand
    obtain ⟨d, hd⟩ := Option.isSome_iff_exists.1 hdemand
    refine ⟨d, ⟨name, r, hr, hd⟩, ?_⟩
    rwa [supply_of_demand? (hkeys name r hr) hd, Supply.isAmbient_find]
  · rintro ⟨d, ⟨name, r, hr, hd⟩, hambient⟩
    rw [supply_of_demand? (hkeys name r hr) hd, Supply.isAmbient_find] at hambient
    refine ⟨name, r, hr, ?_, hambient⟩
    rw [← isSome_demand? keys e name, hd, Option.isSome_some]

/-- A group with the names of an entry is open if all names that no default provides for are given
and none that must not be asked with is. -/
theorem isOpen_iff :
    let indexed := IndexedEntry.ofOutbound keys e position
    let supplies := keys.map (Supply.find ambientValues values)
    LinkIndex.LinkGroup.isOpen ⟨indexed.required keys, indexed.absent keys, []⟩ supplies ↔
      (∀ d ∈ indexed.demands, d.metByDefault = false →
        (supplies[d.key]?.getD .missing).isGiven) ∧
      ∀ name, (name, .absent) ∈ e.requirements →
        (Supply.find ambientValues values name).isExplicit = false := by
  intro indexed supplies
  have hlength : supplies.length = keys.length := List.length_map _
  unfold LinkIndex.LinkGroup.isOpen IndexedEntry.required IndexedEntry.absent
  rw [Bool.and_eq_true]
  refine and_congr ?_ ?_
  · rw [isSubset_numbersWhere _ hlength]
    · simp only [List.forall_mem_map, List.mem_filter, Bool.not_eq_true', and_imp]
    · simp only [List.forall_mem_map, List.mem_filter, indexed, mem_demands]
      rintro d ⟨⟨name, r, hr, hd⟩, -⟩
      rw [key_of_demand? hd]
      exact List.idxOf_lt_length_iff.2 (hkeys name r hr)
  · rw [isDisjoint_numbersWhere _ hlength]
    · simp only [List.forall_mem_map, List.mem_filter, Prod.forall, beq_iff_eq, and_imp, indexed,
        IndexedEntry.ofOutbound]
      constructor
      · intro h name hr
        rw [← supply_number (hkeys name _ hr)]
        exact h name _ hr rfl
      · rintro h name r hr rfl
        rw [supply_number (hkeys name _ hr)]
        exact h name hr
    · simp only [List.forall_mem_map, List.mem_filter, Prod.forall, indexed,
        IndexedEntry.ofOutbound]
      rintro name r ⟨hr, -⟩
      exact List.idxOf_lt_length_iff.2 (hkeys name r hr)

/-- An index says about an entry what its requirements say. -/
theorem answer_ofOutbound :
    answer keys (keys.map (Supply.find ambientValues values)) (.ofOutbound keys e position) =
      if e.isViable ambientValues values then
        some (.ofOutbound keys e position, e.isFallback ambientValues values)
      else none := by
  unfold answer LinkIndex.meets?
  dsimp only
  rw [← isFallback_eq hkeys]
  by_cases hviable : e.isViable ambientValues values
  · obtain ⟨hdemands, habsent⟩ := (isViable_iff hkeys position).1 hviable
    rw [if_pos hviable, if_pos (List.all_eq_true.2 hdemands), if_pos, Option.map_some]
    refine (isOpen_iff hkeys).2 ⟨fun d hd hdefault => ?_, habsent⟩
    -- a demand that no default meets is met by a value
    have hmet := hdemands d hd
    rw [Demand.isMetBy_eq] at hmet
    rw [Supply.isGiven_eq]
    split at hmet
    next hvalue => rw [hvalue, Option.isSome_some]
    next => rw [hdefault] at hmet; cases hmet
  · rw [if_neg hviable]
    split
    next hopen =>
      rw [if_neg, Option.map_none]
      intro hdemands
      exact hviable ((isViable_iff hkeys position).2
        ⟨List.all_eq_true.1 hdemands, ((isOpen_iff hkeys).1 hopen).2⟩)
    next => rfl

end

/-! ### The whole index -/

namespace LinkIndex

/-- What is found in groups is what an index says about their entries. -/
theorem found_eq {keys : List String} (supplies : List Supply) {gs : List LinkGroup}
    (h : ∀ g ∈ gs, g.Fits keys) :
    ((gs.filter (LinkGroup.isOpen · supplies)).flatMap fun g =>
      g.entries.filterMap fun e => (meets? supplies e).map fun isFallback => (e, isFallback)) =
      (gs.flatMap (·.entries)).filterMap (answer keys supplies) := by
  induction gs with
  | nil => rfl
  | cons g gs ih =>
    rw [List.forall_mem_cons] at h
    have hanswer : g.entries.filterMap (answer keys supplies) =
        if LinkGroup.isOpen g supplies then
          g.entries.filterMap fun e => (meets? supplies e).map fun isFallback => (e, isFallback)
        else [] := by
      have hsame : ∀ e ∈ g.entries, answer keys supplies e =
          if LinkGroup.isOpen g supplies then
            (meets? supplies e).map fun isFallback => (e, isFallback)
          else none := by
        intro e he
        rw [answer, (h.1 e he).1, (h.1 e he).2]
        rfl
      rw [List.filterMap_congr hsame]
      split
      · rfl
      · exact List.filterMap_eq_nil_iff.2 fun e _ => rfl
    rw [List.flatMap_cons, List.filterMap_append, ← ih h.2, hanswer, List.filter_cons]
    split
    · rw [List.flatMap_cons]
    · rw [List.nil_append]

variable (es : List Outbound) (ambientValues values : Bindings)

/-- The entries that are met, as an index keeps them. -/
def met : List (IndexedEntry × Bool) :=
  (es.zipIdx.filter fun (e, _) => e.isViable ambientValues values).map fun (e, position) =>
    (.ofOutbound (vocabulary es) e position, e.isFallback ambientValues values)

/-- Before sorting, the entries that are met are found in some order. -/
theorem perm_found :
    let supplies := (vocabulary es).map (Supply.find ambientValues values)
    (((ofEntries es).groups.filter (LinkGroup.isOpen · supplies)).flatMap fun g =>
      g.entries.filterMap fun e => (meets? supplies e).map fun isFallback => (e, isFallback)).Perm
    (met es ambientValues values) := by
  intro supplies
  obtain ⟨hfits, hperm⟩ := perm_ofEntries es
  have hentries : (es.zipIdx.map fun (e, position) =>
      IndexedEntry.ofOutbound (vocabulary es) e position).filterMap
        (answer (vocabulary es) supplies) = met es ambientValues values := by
    rw [List.filterMap_map, met, ← List.filterMap_eq_map, List.filterMap_filter]
    refine List.filterMap_congr fun (e, position) hmem => ?_
    have he : e ∈ es := (List.mem_zipIdx' hmem).2 ▸ List.getElem_mem _
    exact answer_ofOutbound fun name r hr => fold_mem_vocabulary he hr
  rw [found_eq supplies hfits, ← hentries]
  exact hperm.filterMap _

/-- Positions ascend among the entries that are met. -/
theorem positions_ascend :
    (met es ambientValues values).Pairwise fun a b => a.1.position < b.1.position := by
  have hpositions : es.zipIdx.Pairwise fun a b => a.2 < b.2 := by
    have hascend : (es.zipIdx.map Prod.snd).Pairwise (· < ·) := by
      rw [List.zipIdx_map_snd]
      exact List.pairwise_lt_range'
    exact List.pairwise_map.1 hascend
  exact List.pairwise_map.2 (hpositions.filter _)

/-- The comparison of found entries, their positions aside. -/
def compareMet (a b : IndexedEntry × Bool) : Ordering :=
  (compare b.1.demands.length a.1.demands.length).then <|
    (compare a.2 b.2).then <|
      (compare b.1.entry.pattern.template.linkRank a.1.entry.pattern.template.linkRank).then <|
        compare (fold a.1.entry.templateText) (fold b.1.entry.templateText)

instance : Std.TransCmp compareMet :=
  inferInstanceAs (Std.TransCmp (compareLex
    (fun a b : IndexedEntry × Bool => compareOn (fun e => e.1.demands.length) b a)
    (compareLex (compareOn fun e => e.2)
      (compareLex (fun a b => compareOn (fun e => e.1.entry.pattern.template.linkRank) b a)
        (compareOn fun e => fold e.1.entry.templateText)))))

theorem compareFound_eq (a b : IndexedEntry × Bool) :
    compareFound a b = (compareMet a b).then (compare a.1.position b.1.position) := by
  simp only [compareFound, compareMet, compareRanks_eq, Ordering.then_assoc]

/-- **Finding link entries is a scan**: for any entries and any values an index gives the candidates
that the scan gives, each once and in the same order. -/
theorem candidates_eq_scan :
    (ofEntries es).candidates ambientValues values = scan es ambientValues values := by
  unfold candidates
  dsimp only
  rw [show (ofEntries es).keys = vocabulary es from rfl]
  simp only [compareFound_eq]
  rw [mergeSort_then_place compareMet (fun e => e.1.position)
    (perm_found es ambientValues values) (positions_ascend es ambientValues values)]
  rw [List.map_mergeSort (s := fun a b => (Candidate.compareViable a b).isLE)]
  · rw [met, List.map_map]
    rfl
  · rintro a ha b hb
    obtain ⟨⟨e, i⟩, -, rfl⟩ := List.mem_map.1 ha
    obtain ⟨⟨e', j⟩, -, rfl⟩ := List.mem_map.1 hb
    simp only [compareMet, length_demands]
    rfl

end LinkIndex

end UrlRouting
