import Mathlib.Data.List.Perm.Basic
import UrlRouting.Proofs.StableSort
import UrlRouting.Proofs.Trie.Arena
import UrlRouting.Trie.Walk

/-!
# The candidates of a trie, without the trie

`routes` lists the branches that the pieces of a path can take, in the order of the walk. The walk
through a labelled arena goes along them and collects what ends there
(`Labelled.candidatePositions`), so the candidates of a trie are the entries that end along each
route, and within a route they come in the order of their ranks (`Trie.candidates_ofEntries`).
-/

namespace UrlRouting

open Text

/-! ### Routes -/

/-- How particular a branch is: a literal most of all, a catch-all least. -/
def Branch.kind : Branch → Nat
  | .literal _ => 0
  | .constrained => 1
  | .parameter => 2
  | .constrainedCatchAll => 3
  | .catchAll => 4

/-- The branches that a piece can take, the more particular one first. -/
def branchesFor (piece : String) : List Branch :=
  [.literal (fold piece), .constrained, .parameter, .constrainedCatchAll, .catchAll]

/-- The branches that pieces can take one after another, the more particular ones first. A
catch-all takes all pieces that are left. -/
def routes : List String → List (List Branch)
  | [] => [[]]
  | piece :: pieces =>
    (branchesFor piece).flatMap fun b =>
      if b.isCatchAll then [[b]] else (routes pieces).map (b :: ·)

theorem mem_routes_cons {piece : String} {pieces : List String} {label : List Branch} :
    label ∈ routes (piece :: pieces) ↔ ∃ b ∈ branchesFor piece, ∃ rest, label = b :: rest ∧
      if b.isCatchAll then rest = [] else rest ∈ routes pieces := by
  rw [routes, List.mem_flatMap]
  refine exists_congr fun b => and_congr_right fun _ => ?_
  by_cases hb : b.isCatchAll
  · simp [hb]
  · simp only [if_neg hb, List.mem_map]
    exact exists_congr fun rest => by rw [and_comm, eq_comm]

/-- The routes of a path come in the order of the kinds of their branches, and no two have the
same kinds. -/
theorem routes_ascending (pieces : List String) :
    (routes pieces).Pairwise fun l l' => compare (l.map Branch.kind) (l'.map Branch.kind) = .lt := by
  induction pieces with
  | nil => exact List.pairwise_singleton _ _
  | cons piece pieces ih =>
    rw [routes, List.pairwise_flatMap]
    constructor
    · intro b _
      split
      · exact List.pairwise_singleton _ _
      · refine List.pairwise_map.2 (ih.imp fun h => ?_)
        rw [List.map_cons, List.map_cons, List.compare_cons_cons, Std.ReflOrd.compare_self]
        exact h
    · have hkinds : (branchesFor piece).Pairwise fun b b' => b.kind < b'.kind := by
        simp [branchesFor, Branch.kind]
      refine hkinds.imp fun {b b'} hlt => ?_
      have hhead : ∀ (c : Branch) (l : List Branch),
          l ∈ (if c.isCatchAll then [[c]] else (routes pieces).map (c :: ·)) →
          ∃ rest, l = c :: rest := by
        intro c l hl
        split at hl
        · exact ⟨[], List.mem_singleton.1 hl⟩
        · obtain ⟨rest, -, rfl⟩ := List.mem_map.1 hl
          exact ⟨rest, rfl⟩
      intro l hl l' hl'
      obtain ⟨rest, rfl⟩ := hhead b l hl
      obtain ⟨rest', rfl⟩ := hhead b' l' hl'
      rw [List.map_cons, List.map_cons, List.compare_cons_cons, Nat.compare_eq_lt.2 hlt]
      rfl

theorem routes_nodup (pieces : List String) : (routes pieces).Nodup := by
  refine (routes_ascending pieces).imp fun {l l'} hlt heq => ?_
  rw [heq, Std.ReflOrd.compare_self] at hlt
  cases hlt

/-! ### The walk -/

/-- What a walk collects at a node. -/
def collected (visit : TrieNode × List String) : List Nat :=
  if visit.1.isCatchAll || visit.2.isEmpty then visit.1.ends else []

namespace Labelled

variable {τ : Type} {t : Trie τ} {labels : List (List Branch)} {ends : List Branch → List Nat}

/-- What a walk from the child under a branch collects, provided it is so for walks over
`pieces`. -/
theorem collected_child (h : Labelled t.nodes labels ends) {pieces : List String}
    (ih : ∀ {i : Nat} {label : List Branch}, labels[i]? = some label →
      (t.visits i pieces).flatMap collected =
        if endsInCatchAll label then ends label
        else (routes pieces).flatMap fun below => ends (label ++ below))
    {n : TrieNode} {label : List Branch} (hat : NodeAt labels ends n label) (b : Branch) :
    ((n.child? b).toList.flatMap fun child => (t.visits child pieces).flatMap collected) =
      (if b.isCatchAll then [[b]] else (routes pieces).map (b :: ·)).flatMap
        fun below => ends (label ++ below) := by
  cases hb : n.child? b with
  | some child =>
    have hlabel := (hat.child b child).1 hb
    simp only [Option.toList_some, List.flatMap_singleton, ih hlabel,
      endsInCatchAll, List.getLast?_concat, Option.any_some]
    by_cases hc : b.isCatchAll
    · simp [hc]
    · simp [hc, List.flatMap_map]
  | none =>
    -- there is no node below
    have hfresh : label ++ [b] ∉ labels := by
      intro hmem
      obtain ⟨j, hj⟩ := List.getElem?_of_mem hmem
      rw [(hat.child b j).2 hj] at hb
      cases hb
    have habsent : ∀ below, ends (label ++ b :: below) = [] := by
      intro below
      rw [List.append_cons]
      exact h.absent _ (h.absent_below hfresh below)
    by_cases hc : b.isCatchAll
    · simp [hc, habsent]
    · simp [hc, List.flatMap_map, habsent]

/-- A walk from a node goes along the routes of the pieces that are left, and collects what ends
there. -/
theorem collected_visits (h : Labelled t.nodes labels ends) (pieces : List String) {i : Nat}
    {label : List Branch} (hi : labels[i]? = some label) :
    (t.visits i pieces).flatMap collected =
      if endsInCatchAll label then ends label
      else (routes pieces).flatMap fun below => ends (label ++ below) := by
  induction pieces generalizing i label with
  | nil =>
    obtain ⟨n, hn, hat⟩ := h.exists_node hi
    simp [Trie.visits, hn, collected, hat.ends, routes]
  | cons piece pieces ih =>
    obtain ⟨n, hn, hat⟩ := h.exists_node hi
    simp only [Trie.visits, hn, List.flatMap_cons, collected, hat.isCatchAll, hat.ends]
    by_cases hc : endsInCatchAll label
    · simp [hc]
    · simp only [hc, Bool.false_or, List.isEmpty_cons, Bool.false_eq_true, if_false,
        List.nil_append, routes]
      change List.flatMap collected (List.flatMap _ ((branchesFor piece).filterMap n.child?)) = _
      rw [List.filterMap_eq_flatMap_toList, List.flatMap_assoc, List.flatMap_assoc,
        List.flatMap_assoc]
      exact List.flatMap_congr fun b _ => by rw [← h.collected_child ih hat b]

/-- The candidates of a trie are what ends along the routes of a path. -/
theorem candidatePositions (h : Labelled t.nodes labels ends) (path : UrlPath) :
    t.candidatePositions path = (routes path.pieces).flatMap ends := by
  have := h.collected_visits path.pieces h.root
  rw [if_neg (by simp [endsInCatchAll])] at this
  exact this

end Labelled

/-! ### Ranks -/

namespace Inbound

variable {τ : Type}

/-- Compares the ranks of two entries, and the texts of their templates up to case. -/
def compareRank (a b : Inbound τ) : Ordering :=
  (compare a.pattern.template.matchRank b.pattern.template.matchRank).then
    (compare (fold a.templateText) (fold b.templateText))

theorem isLE_eq (a b : Inbound τ) : a.isLE b = (a.compareRank b).isLE := by
  rw [isLE, compareRanks_eq, compareRank]

instance : Std.TransCmp (compareRank : Inbound τ → Inbound τ → Ordering) :=
  inferInstanceAs (Std.TransCmp (compareLex
    (compareOn fun e : Inbound τ => e.pattern.template.matchRank)
    (compareOn fun e => fold e.templateText)))

end Inbound

/-! ### What ends where -/

/-- Whether an entry ends at the node that some branches lead to. -/
def Inbound.endsAt {τ : Type} (e : Inbound τ) (label : List Branch) : Bool :=
  e.pattern.endsAt e.pattern.template.segments label

/-- The branches of the segments of an entry. -/
def Inbound.branches {τ : Type} (e : Inbound τ) : List Branch :=
  e.pattern.template.segments.map Segment.branch

/-- An entry ends where all its segments lead. -/
theorem Inbound.endsAt_branches {τ : Type} (e : Inbound τ) : e.endsAt e.branches := by
  unfold endsAt branches
  induction e.pattern.template.segments with
  | nil => rfl
  | cons s segments ih => simpa [RoutePattern.endsAt] using ih

/-- The positions of the entries that end under a label, in the order of the entries. -/
def positionsAt {τ : Type} (es : List (Inbound τ)) (label : List Branch) : List Nat :=
  (List.range es.length).filter fun i => es[i]?.any (·.endsAt label)

namespace Trie

variable {τ : Type} {order : Int} {es : List (Inbound τ)} {t : Trie τ}

/-- The tries that inserting entries and bringing them into order, in any sequence of steps, can
make of an empty one. -/
inductive Grown (order : Int) : List (Inbound τ) → Trie τ → Prop where
  /-- Without entries. -/
  | empty : Grown order [] (empty order)
  /-- Another entry is inserted. -/
  | insert {es : List (Inbound τ)} {t : Trie τ} (e : Inbound τ) :
      Grown order es t → Grown order (es ++ [e]) (t.insert e)
  /-- The entries that end at each node are brought into order. -/
  | sort {es : List (Inbound τ)} {t : Trie τ} : Grown order es t → Grown order es t.sortEnds

theorem positionsAt_concat (es : List (Inbound τ)) (e : Inbound τ) (label : List Branch) :
    positionsAt (es ++ [e]) label =
      positionsAt es label ++ if e.endsAt label then [es.length] else [] := by
  unfold positionsAt
  rw [List.length_append, List.length_singleton, List.range_succ, List.filter_append]
  congr 1
  · refine List.filter_congr fun i hi => ?_
    rw [List.getElem?_append_left (List.mem_range.1 hi)]
  · rw [List.filter_singleton, List.getElem?_concat_length, Option.any_some]
    cases e.endsAt label <;> rfl

/-- Inserting an entry keeps the arena labelled and lets the entry end where its segments lead; the
nodes that it makes are on the way there. -/
theorem labelled_insert {labels : List (List Branch)} {ends : List Branch → List Nat}
    (h : Labelled t.nodes labels ends) (e : Inbound τ) :
    ∃ labels', Labelled (t.insert e).nodes labels'
        (fun label => ends label ++ if e.endsAt label then [t.entries.size] else []) ∧
      ∀ label ∈ labels', label ∈ labels ∨ label <+: e.branches := by
  obtain ⟨labels', h', hmade⟩ := h.of_threadSegments e.pattern t.entries.size h.root
    e.pattern.template.segments
  exact ⟨labels', h'.congr fun label => rfl, hmade⟩

/-- Bringing the entries into order keeps the arena labelled. -/
theorem labelled_sortEnds {labels : List (List Branch)} {ends : List Branch → List Nat}
    (h : Labelled t.nodes labels ends) :
    Labelled t.sortEnds.nodes labels fun label => (ends label).mergeSort t.endsLE where
  size := by rw [← h.size]; exact Array.size_map
  root := h.root
  nodup := h.nodup
  parent := h.parent
  node := by
    intro i n label hn hl
    rw [sortEnds, Array.getElem?_map] at hn
    obtain ⟨n₀, hn₀, rfl⟩ := Option.map_eq_some_iff.1 hn
    have hat := h.node i n₀ label hn₀ hl
    exact ⟨hat.depth, hat.isCatchAll, by rw [hat.ends], hat.distinct, hat.child⟩
  absent := by
    intro label hl
    simp [h.absent label hl]

/-- In a grown trie the entries end, in some order, where their segments lead. -/
theorem Grown.labelled (h : Grown order es t) :
    t.entries.toList = es ∧ ∃ labels ends, Labelled t.nodes labels ends ∧
      ∀ label, (ends label).Perm (positionsAt es label) := by
  induction h with
  | empty => exact ⟨rfl, _, _, Labelled.single, fun label => .refl _⟩
  | @insert es t e _ ih =>
    obtain ⟨hes, labels, ends, hl, hp⟩ := ih
    obtain ⟨labels', hl', -⟩ := labelled_insert hl e
    refine ⟨by simp [Trie.insert, hes], labels', _, hl', fun label => ?_⟩
    rw [positionsAt_concat, ← Array.length_toList, hes]
    exact (hp label).append_right _
  | sort _ ih =>
    obtain ⟨hes, labels, ends, hl, hp⟩ := ih
    exact ⟨hes, labels, _, labelled_sortEnds hl,
      fun label => (List.mergeSort_perm _ _).trans (hp label)⟩

/-- Inserting entries one after another lets them end, in the order of insertion, where their
segments lead, and every node but the root is on the way of an entry. -/
theorem labelled_insertAll (order : Int) (es : List (Inbound τ)) :
    ((empty order).insertAll es).entries.toList = es ∧
      ∃ labels, Labelled ((empty order).insertAll es).nodes labels (positionsAt es) ∧
        ∀ label ∈ labels, label = [] ∨ ∃ e ∈ es, label <+: e.branches := by
  induction es using List.reverseRecOn with
  | nil => exact ⟨rfl, _, Labelled.single, fun label hl => Or.inl (List.mem_singleton.1 hl)⟩
  | append_singleton es e ih =>
    obtain ⟨hes, labels, hl, hmade⟩ := ih
    have hstep : (empty order).insertAll (es ++ [e]) = ((empty order).insertAll es).insert e := by
      simp [insertAll]
    obtain ⟨labels', hl', hmade'⟩ := labelled_insert hl e
    rw [hstep]
    refine ⟨by simp [Trie.insert, hes], labels', hl'.congr fun label => ?_, fun label hmem => ?_⟩
    · rw [positionsAt_concat, ← Array.length_toList, hes]
    · rcases hmade' label hmem with hold | hnew
      · apply (hmade label hold).imp_right
        rintro ⟨e', he', hlabel⟩
        exact ⟨e', List.mem_append_left _ he', hlabel⟩
      · exact Or.inr ⟨e, List.mem_append_right _ (List.mem_singleton_self e), hnew⟩

theorem grown_insertAll (order : Int) (es : List (Inbound τ)) :
    Grown order es ((empty order).insertAll es) := by
  induction es using List.reverseRecOn with
  | nil => exact .empty
  | append_singleton es e ih => simpa [insertAll] using ih.insert e

/-! ### The candidates -/

/-- The candidates of a grown trie are, in some order along each route, the positions of the
entries that end there. -/
theorem Grown.candidatePositions (h : Grown order es t) (path : UrlPath) :
    (t.candidatePositions path).Perm ((routes path.pieces).flatMap (positionsAt es)) := by
  obtain ⟨-, labels, ends, hl, hp⟩ := h.labelled
  rw [hl.candidatePositions]
  exact List.Perm.flatMap_left _ fun label _ => hp label

/-- The entries at the positions under a label. -/
theorem map_positionsAt (es : List (Inbound τ)) (label : List Branch) :
    (positionsAt es label).map (fun i => es[i]?) = (es.filter (·.endsAt label)).map some := by
  induction es using List.reverseRecOn with
  | nil => rfl
  | append_singleton es e ih =>
    rw [positionsAt_concat, List.map_append, List.filter_append, List.map_append, ← ih]
    congr 1
    · refine List.map_congr_left fun i hi => ?_
      exact List.getElem?_append_left (List.mem_range.1 (List.mem_filter.1 hi).1)
    · cases he : e.endsAt label <;> simp [he]

/-- All segments of an entry lead to a node, since the entry ends there. -/
theorem branches_mem_labels {nodes : Array TrieNode} {labels : List (List Branch)}
    {ends : List Branch → List Nat} {e : Inbound τ} (h : Labelled nodes labels ends)
    (hends : (ends e.branches).Perm (positionsAt es e.branches)) (he : e ∈ es) :
    e.branches ∈ labels := by
  by_contra habsent
  rw [h.absent _ habsent] at hends
  have hmap := map_positionsAt es e.branches
  rw [← hends.nil_eq, List.map_nil, eq_comm, List.map_eq_nil_iff, List.filter_eq_nil_iff] at hmap
  exact hmap e he e.endsAt_branches

/-- Compares entries that may be missing. -/
def optionLE : Option (Inbound τ) → Option (Inbound τ) → Bool
  | some a, some b => a.isLE b
  | _, _ => true

/-- Sorting the positions under a label sorts the entries there. -/
theorem entries_sorted (order : Int) (es : List (Inbound τ)) (label : List Branch) :
    ((positionsAt es label).mergeSort ((empty order).insertAll es).endsLE).map
        (fun i => ((empty order).insertAll es).entries[i]?) =
      ((es.filter (·.endsAt label)).mergeSort Inbound.isLE).map some := by
  obtain ⟨hes, -⟩ := labelled_insertAll order es
  have hget : ∀ i : Nat, ((empty order).insertAll es).entries[i]? = es[i]? := by
    intro i
    rw [← Array.getElem?_toList, hes]
  calc
    _ = ((positionsAt es label).map fun i => es[i]?).mergeSort optionLE := by
      simp only [hget]
      refine List.map_mergeSort fun i _ j _ => ?_
      change optionLE ((empty order).insertAll es).entries[i]?
        ((empty order).insertAll es).entries[j]? = _
      rw [hget, hget]
    _ = _ := by
      rw [map_positionsAt]
      exact (List.map_mergeSort (r := Inbound.isLE) (s := optionLE) (f := some)
        fun a _ b _ => rfl).symm

/-- The candidates of the trie of some entries are the entries that end along each route, and
those of one route come in the order of their ranks. -/
theorem candidates_ofEntries (order : Int) (es : List (Inbound τ)) (path : UrlPath) :
    (ofEntries order es).candidates path = (routes path.pieces).flatMap fun label =>
      (es.filter (·.endsAt label)).mergeSort Inbound.isLE := by
  obtain ⟨-, labels, hl, -⟩ := labelled_insertAll order es
  unfold candidates
  rw [show ofEntries order es = ((empty order).insertAll es).sortEnds from rfl,
    (labelled_sortEnds hl).candidatePositions, List.filterMap_flatMap]
  refine List.flatMap_congr fun label _ => ?_
  have hsorted := congrArg (List.filterMap id) (entries_sorted order es label)
  rw [List.filterMap_map, List.filterMap_map] at hsorted
  exact hsorted.trans List.filterMap_some

end Trie

end UrlRouting
