import Mathlib.Data.List.Perm.Basic
import Mathlib.Data.List.Nodup
import UrlRouting.Proofs.Trie.Candidates
import UrlRouting.Trie.Outline

/-!
# The order of registration

The nodes of a trie are numbered, and the children of a node listed, in the order in which entries
are inserted. Nothing of this is seen from outside: how many nodes there are, what the outline says
and the texts that a walk yields depend only on the labels of the nodes and on the texts that end
under each label (`Labelled.outlineFrom_congr`), and these do not depend on the order of insertion
(`Trie.ofEntries_perm`).
-/

namespace UrlRouting

open Text

/-! ### The children of a node as they are shown -/

namespace TrieNode

variable {n : TrieNode}

/-- In a node with distinct branches the child under a branch is the one that is listed with it. -/
theorem child?_of_mem (hdistinct : (n.children.map Prod.fst).Nodup) {c : Branch × Nat}
    (hc : c ∈ n.children) : n.child? c.1 = some c.2 := by
  obtain ⟨front, back, hchildren⟩ := List.append_of_mem hc
  rw [child?, List.lookup_eq_some_iff]
  refine ⟨front, back, hchildren, fun p hp => ?_⟩
  rw [hchildren, List.map_append, List.nodup_append] at hdistinct
  simpa using Ne.symm (hdistinct.2.2 p.1 (List.mem_map_of_mem hp) c.1 (by simp))

theorem isSome_child?_iff {b : Branch} : (n.child? b).isSome ↔ b ∈ n.children.map Prod.fst := by
  rw [← Option.ne_none_iff_isSome, child?, Ne, List.lookup_eq_none_iff]
  simp

/-- The literals come with the texts of the literal branches, sorted. -/
theorem map_fst_literals (n : TrieNode) : n.literals.map Prod.fst =
    ((n.children.map Prod.fst).filterMap Branch.literal?).mergeSort fun a b => decide (a ≤ b) := by
  rw [literals, List.map_mergeSort (s := fun a b => decide (a ≤ b)) fun _ _ _ _ => rfl,
    List.map_filterMap, List.filterMap_map]
  congr 2
  funext ⟨b, id⟩
  cases b <;> rfl

/-- All branches under which a child may be shown, in the order in which children are. -/
def shownBranches (n : TrieNode) : List Branch :=
  (n.literals.map Prod.fst).map .literal ++ otherBranches

/-- What is shown are the children under these branches. -/
theorem shownChildren_eq (hdistinct : (n.children.map Prod.fst).Nodup) : n.shownChildren =
    n.shownBranches.filterMap fun b => (n.child? b).map fun id => (b.label, id) := by
  rw [shownChildren, shownBranches, List.filterMap_append, List.map_map, List.filterMap_map]
  congr 1
  have hliteral : ∀ c ∈ n.literals, (n.child? (.literal c.1)).map
      (fun id => ((Branch.literal c.1).label, id)) = some c := by
    intro c hc
    rw [literals, List.mem_mergeSort, List.mem_filterMap] at hc
    obtain ⟨⟨b, id⟩, hmem, hc⟩ := hc
    cases b with
    | literal text =>
      obtain rfl := Option.some.inj hc
      rw [child?_of_mem hdistinct hmem]
      rfl
    | _ => cases hc
  exact ((List.filterMap_congr hliteral).trans List.filterMap_some).symm

/-- Two nodes with children under the same branches show them under the same branches. -/
theorem shownBranches_congr {n n' : TrieNode} (hdistinct : (n.children.map Prod.fst).Nodup)
    (hdistinct' : (n'.children.map Prod.fst).Nodup)
    (h : ∀ b, (n.child? b).isSome ↔ (n'.child? b).isSome) :
    n.shownBranches = n'.shownBranches := by
  have hperm : (n.children.map Prod.fst).Perm (n'.children.map Prod.fst) := by
    rw [List.perm_ext_iff_of_nodup hdistinct hdistinct']
    intro b
    rw [← isSome_child?_iff, ← isSome_child?_iff, h]
  have hranking : Ranking fun a b : String => decide (a ≤ b) :=
    ⟨fun a b c => by simpa using String.le_trans, fun a b => by simpa using String.le_total a b⟩
  have htexts := hranking.map_mergeSort_perm (hperm.filterMap Branch.literal?) (f := id) (by
    intro a _ b _ hab
    simp only [tied, Bool.and_eq_true, decide_eq_true_eq] at hab
    exact String.le_antisymm hab.1 hab.2)
  rw [List.map_id, List.map_id] at htexts
  rw [shownBranches, shownBranches, map_fst_literals, map_fst_literals, htexts]

end TrieNode

/-! ### What is seen of a trie -/

/-- The text of the template at a position. -/
def Trie.text? {τ : Type} (t : Trie τ) (i : Nat) : Option String :=
  t.entries[i]?.map Inbound.templateText

namespace Labelled

variable {τ : Type} {t t' : Trie τ} {labels labels' : List (List Branch)}
  {ends ends' : List Branch → List Nat}

/-- There are as many nodes as labels. -/
theorem size_congr (h : Labelled t.nodes labels ends) (h' : Labelled t'.nodes labels' ends')
    (hlabels : ∀ label, label ∈ labels ↔ label ∈ labels') : t.nodes.size = t'.nodes.size := by
  rw [h.size, h'.size]
  exact ((List.perm_ext_iff_of_nodup h.nodup h'.nodup).2 hlabels).length_eq

/-- A walk yields the texts that end along the routes of a path. -/
theorem map_templateText_candidates (h : Labelled t.nodes labels ends) (path : UrlPath) :
    (t.candidates path).map Inbound.templateText =
      (routes path.pieces).flatMap fun label => ((ends label).map t.text?).filterMap id := by
  rw [Trie.candidates, h.candidatePositions, List.map_filterMap, List.filterMap_flatMap]
  refine List.flatMap_congr fun label _ => ?_
  rw [List.filterMap_map]
  rfl

/-- A line of the outline tells the texts that end at a node. -/
theorem outlineLine_congr {n n' : TrieNode}
    (h : n.ends.map t.text? = n'.ends.map t'.text?) (text : String) (indent : Nat) :
    t.outlineLine n text indent = t'.outlineLine n' text indent := by
  have htexts : n.ends.filterMap t.text? = n'.ends.filterMap t'.text? := by
    have hmap := congrArg (List.filterMap id) h
    rwa [List.filterMap_map, List.filterMap_map] at hmap
  have hempty : n.ends.isEmpty = n'.ends.isEmpty := by
    rw [← List.isEmpty_map (f := t.text?), h, List.isEmpty_map]
  change _ ++ (if n.ends.isEmpty then "" else "  => " ++ ", ".intercalate (n.ends.filterMap t.text?))
    ++ _ = _
  rw [htexts, hempty]
  rfl

/-- The outline from a node: its own line and then what is below each branch. -/
theorem outlineFrom_of_node {n : TrieNode} (hdistinct : (n.children.map Prod.fst).Nodup) {i : Nat}
    (hn : t.nodes[i]? = some n) (fuel : Nat) (text : String) (indent : Nat) :
    t.outlineFrom (fuel + 1) i text indent = t.outlineLine n text indent ++
      String.join (n.shownBranches.filterMap fun b =>
        (n.child? b).map fun id => t.outlineFrom fuel id b.label (indent + 1)) := by
  rw [Trie.outlineFrom, hn]
  dsimp only
  rw [TrieNode.shownChildren_eq hdistinct, List.map_filterMap]
  simp only [Option.map_map, Function.comp_def]

/-- Nodes of one label are shown alike, with all below them, if the tries have nodes of the same
labels and the same texts end under each. -/
theorem outlineFrom_congr (h : Labelled t.nodes labels ends) (h' : Labelled t'.nodes labels' ends')
    (hlabels : ∀ label, label ∈ labels ↔ label ∈ labels')
    (htexts : ∀ label, (ends label).map t.text? = (ends' label).map t'.text?) (fuel : Nat)
    {i i' : Nat} {label : List Branch} (hi : labels[i]? = some label)
    (hi' : labels'[i']? = some label) (text : String) (indent : Nat) :
    t.outlineFrom fuel i text indent = t'.outlineFrom fuel i' text indent := by
  induction fuel generalizing i i' label text indent with
  | zero => rfl
  | succ fuel ih =>
    obtain ⟨n, hn, hat⟩ := h.exists_node hi
    obtain ⟨n', hn', hat'⟩ := h'.exists_node hi'
    have hchild (b : Branch) : (n.child? b).isSome ↔ (n'.child? b).isSome := by
      simp only [Option.isSome_iff_exists, hat.child, hat'.child, ← List.mem_iff_getElem?, hlabels]
    have hends : n.ends.map t.text? = n'.ends.map t'.text? := by rw [hat.ends, hat'.ends, htexts]
    have hbelow (b : Branch) :
        (n.child? b).map (fun id => t.outlineFrom fuel id b.label (indent + 1)) =
          (n'.child? b).map fun id => t'.outlineFrom fuel id b.label (indent + 1) := by
      cases hb : n.child? b with
      | none =>
        have hb' : n'.child? b = none := by
          rw [← Option.not_isSome_iff_eq_none, ← hchild, hb]
          exact Bool.false_ne_true
        rw [hb', Option.map_none, Option.map_none]
      | some id =>
        obtain ⟨id', hb'⟩ := Option.isSome_iff_exists.1 ((hchild b).1 (by rw [hb]; rfl))
        rw [hb', Option.map_some, Option.map_some,
          ih ((hat.child b id).1 hb) ((hat'.child b id').1 hb')]
    rw [outlineFrom_of_node hat.distinct hn, outlineFrom_of_node hat'.distinct hn',
      outlineLine_congr hends, TrieNode.shownBranches_congr hat.distinct hat'.distinct hchild,
      List.filterMap_congr fun b _ => hbelow b]

/-! ### How deep a trie is -/

/-- No node lies deeper than there are nodes. -/
theorem length_lt_of_mem {nodes : Array TrieNode} (h : Labelled nodes labels ends)
    {label : List Branch} (hl : label ∈ labels) : label.length < labels.length := by
  have hsub : (List.range (label.length + 1)).map label.take ⊆ labels := by
    intro front hfront
    obtain ⟨k, -, rfl⟩ := List.mem_map.1 hfront
    exact h.mem_of_prefix hl (List.take_prefix k label)
  have hnodup : ((List.range (label.length + 1)).map label.take).Nodup := by
    refine List.nodup_range.map_on fun k hk k' hk' htake => ?_
    have hlength := congrArg List.length htake
    rw [List.mem_range] at hk hk'
    rw [List.length_take, List.length_take] at hlength
    omega
  have hle := (List.subperm_of_subset hnodup hsub).length_le
  rwa [List.length_map, List.length_range] at hle

/-- Below a node the outline ends before it has gone down as many levels as there are nodes that
are no deeper. -/
theorem outlineFrom_succ (h : Labelled t.nodes labels ends) {fuel i : Nat} {label : List Branch}
    (hi : labels[i]? = some label) (hfuel : labels.length ≤ label.length + fuel) (text : String)
    (indent : Nat) :
    t.outlineFrom (fuel + 1) i text indent = t.outlineFrom fuel i text indent := by
  induction fuel generalizing i label text indent with
  | zero => exact absurd (h.length_lt_of_mem (List.mem_of_getElem? hi)) (Nat.not_lt.2 hfuel)
  | succ fuel ih =>
    obtain ⟨n, hn, hat⟩ := h.exists_node hi
    have hbelow (b : Branch) :
        (n.child? b).map (fun id => t.outlineFrom (fuel + 1) id b.label (indent + 1)) =
          (n.child? b).map fun id => t.outlineFrom fuel id b.label (indent + 1) := by
      cases hb : n.child? b with
      | none => rfl
      | some id =>
        have hdeep : labels.length ≤ (label ++ [b]).length + fuel := by
          rw [List.length_append, List.length_singleton]
          omega
        rw [Option.map_some, Option.map_some, ih ((hat.child b id).1 hb) hdeep]
    rw [outlineFrom_of_node hat.distinct hn, outlineFrom_of_node hat.distinct hn,
      List.filterMap_congr fun b _ => hbelow b]

end Labelled

/-! ### Entries in any order -/

namespace Inbound

variable {τ : Type}

theorem ranking_isLE : Ranking (Inbound.isLE : Inbound τ → Inbound τ → Bool) := by
  rw [show (Inbound.isLE : Inbound τ → Inbound τ → Bool) = fun a b => (a.compareRank b).isLE from
    funext₂ isLE_eq]
  exact Ranking.of_compare compareRank

/-- Entries are tied if their ranks are the same and the texts of their templates are, up to
case. -/
theorem eq_of_tied {a b : Inbound τ} (h : tied Inbound.isLE a b) :
    a.pattern.template.matchRank = b.pattern.template.matchRank ∧
      fold a.templateText = fold b.templateText := by
  simp only [tied, isLE_eq, Bool.and_eq_true] at h
  have heq : a.compareRank b = .eq := Std.OrientedCmp.isLE_antisymm h.1 h.2
  rw [compareRank, Ordering.then_eq_eq] at heq
  exact ⟨Std.LawfulEqOrd.eq_of_compare heq.1, Std.LawfulEqOrd.eq_of_compare heq.2⟩

end Inbound

namespace Trie

variable {τ : Type} {es es' : List (Inbound τ)}

/-- The nodes of the trie of some entries are the root and those on the way of an entry. -/
theorem labelled_ofEntries (order : Int) (es : List (Inbound τ)) :
    ∃ labels, Labelled (ofEntries order es).nodes labels
        (fun label => (positionsAt es label).mergeSort ((empty order).insertAll es).endsLE) ∧
      ∀ label, label ∈ labels ↔ label = [] ∨ ∃ e ∈ es, label <+: e.branches := by
  obtain ⟨-, labels, hl, hmade⟩ := labelled_insertAll order es
  refine ⟨labels, labelled_sortEnds hl, fun label => ⟨hmade label, ?_⟩⟩
  rintro (rfl | ⟨e, he, hlabel⟩)
  · exact List.mem_of_getElem? hl.root
  · exact hl.mem_of_prefix (branches_mem_labels hl (.refl _) he) hlabel

/-- The texts that end under a label come in the order of the ranks. -/
theorem map_text?_ofEntries (order : Int) (es : List (Inbound τ)) (label : List Branch) :
    ((positionsAt es label).mergeSort ((empty order).insertAll es).endsLE).map
        (ofEntries order es).text? =
      (((es.filter (·.endsAt label)).mergeSort Inbound.isLE).map Inbound.templateText).map some := by
  have hsorted := congrArg (List.map (Option.map Inbound.templateText)) (entries_sorted order es label)
  rw [List.map_map, List.map_map] at hsorted
  rw [List.map_map]
  exact hsorted

theorem order_ofEntries (order : Int) (es : List (Inbound τ)) :
    (ofEntries order es).order = order := by
  have hinsert (t : Trie τ) : (t.insertAll es).order = t.order := by
    induction es generalizing t with
    | nil => rfl
    | cons e es ih => exact ih (t.insert e)
  exact hinsert (empty order)

/-- The outline of a trie shows all of it: going further down does not show more. -/
theorem outlineFrom_ofEntries (order : Int) (es : List (Inbound τ)) (more : Nat) :
    (ofEntries order es).outlineFrom ((ofEntries order es).nodes.size + more) 0 "/" 1 =
      (ofEntries order es).outlineFrom (ofEntries order es).nodes.size 0 "/" 1 := by
  obtain ⟨labels, h, -⟩ := labelled_ofEntries order es
  induction more with
  | zero => rfl
  | succ more ih =>
    have hfuel : labels.length ≤
        ([] : List Branch).length + ((ofEntries order es).nodes.size + more) := by
      rw [← h.size, List.length_nil]
      omega
    rw [← Nat.add_assoc, h.outlineFrom_succ h.root hfuel, ih]

/-- **The order of registration does not matter**: if entries that are tied have templates of the
same text, then the tries of the entries in any two orders have as many nodes, the same outline, and
walks that yield the same texts. -/
theorem ofEntries_perm (order : Int) (hperm : es.Perm es')
    (htied : ∀ a ∈ es, ∀ b ∈ es, a.pattern.template.matchRank = b.pattern.template.matchRank →
      fold a.templateText = fold b.templateText → a.templateText = b.templateText) :
    (ofEntries order es).nodes.size = (ofEntries order es').nodes.size ∧
      (ofEntries order es).outline = (ofEntries order es').outline ∧
      ∀ path, ((ofEntries order es).candidates path).map Inbound.templateText =
        ((ofEntries order es').candidates path).map Inbound.templateText := by
  obtain ⟨labels, h, hlabels⟩ := labelled_ofEntries order es
  obtain ⟨labels', h', hlabels'⟩ := labelled_ofEntries order es'
  have hsame (label : List Branch) : label ∈ labels ↔ label ∈ labels' := by
    rw [hlabels, hlabels']
    simp only [hperm.mem_iff]
  have htexts (label : List Branch) :
      ((positionsAt es label).mergeSort ((empty order).insertAll es).endsLE).map
          (ofEntries order es).text? =
        ((positionsAt es' label).mergeSort ((empty order).insertAll es').endsLE).map
          (ofEntries order es').text? := by
    rw [map_text?_ofEntries, map_text?_ofEntries, Inbound.ranking_isLE.map_mergeSort_perm
      (hperm.filter _)]
    intro a ha b hb hab
    obtain ⟨hrank, htext⟩ := Inbound.eq_of_tied hab
    exact htied a (List.mem_filter.1 ha).1 b (List.mem_filter.1 hb).1 hrank htext
  have hsize := h.size_congr h' hsame
  refine ⟨hsize, ?_, fun path => ?_⟩
  · rw [outline, outline, order_ofEntries, order_ofEntries, hsize,
      h.outlineFrom_congr h' hsame htexts _ h.root h'.root]
  · rw [h.map_templateText_candidates, h'.map_templateText_candidates]
    simp only [htexts]

/-- An entry for a template of literals. -/
def literalEntry (texts : List String) : Inbound Unit where
  order := 0
  name? := none
  pattern := .ofTemplate (.ofSegments (texts.map fun text => [.literal text])) .empty
  constraints := .empty
  target := ()

/-- The lines of a node and of the children that are shown. -/
theorem outlineFrom_of_node {t : Trie τ} {node : Nat} {n : TrieNode} {shown : List (String × Nat)}
    (hnode : t.nodes[node]? = some n) (hshown : n.shownChildren = shown) (fuel : Nat)
    (label : String) (indent : Nat) :
    t.outlineFrom (fuel + 1) node label indent = t.outlineLine n label indent ++
      String.join (shown.map fun c => t.outlineFrom fuel c.2 c.1 (indent + 1)) := by
  subst hshown
  rw [outlineFrom, hnode]

/-- A trie of two entries that share the node of their first segments. -/
def sampleTrie : Trie Unit := ofEntries 0 [literalEntry ["a", "b"], literalEntry ["A", "c"]]

/-- The outline has the four nodes from the root down, the two leaves in the order of their
texts. -/
theorem outline_sampleTrie :
    sampleTrie.outline = "order 0\n  /\n    a\n      b  => a/b\n      c  => A/c\n" := by
  have hinserted : ((empty 0).insertAll [literalEntry ["a", "b"], literalEntry ["A", "c"]]).nodes =
      #[{ children := [(.literal "a", 1)] },
        { depth := 1, children := [(.literal "b", 2), (.literal "c", 3)] },
        { depth := 2, ends := [0] }, { depth := 2, ends := [1] }] := by
    decide +kernel
  -- at each node the ends and the children stand in order already
  have hnodes : sampleTrie.nodes =
      #[{ children := [(.literal "a", 1)] },
        { depth := 1, children := [(.literal "b", 2), (.literal "c", 3)] },
        { depth := 2, ends := [0] }, { depth := 2, ends := [1] }] := by
    rw [sampleTrie, ofEntries, sortEnds, hinserted]
    simp
  have hroot : TrieNode.shownChildren { children := [(.literal "a", 1)] } = [("a", 1)] := by
    rw [TrieNode.shownChildren, TrieNode.literals, List.mergeSort_of_pairwise] <;> decide +kernel
  have hinner : TrieNode.shownChildren
      { depth := 1, children := [(.literal "b", 2), (.literal "c", 3)] } =
        [("b", 2), ("c", 3)] := by
    rw [TrieNode.shownChildren, TrieNode.literals, List.mergeSort_of_pairwise] <;> decide +kernel
  have hleaf (i : Nat) : TrieNode.shownChildren { depth := 2, ends := [i] } = [] := by
    simp [TrieNode.shownChildren, TrieNode.literals, TrieNode.child?]
  have hsize : sampleTrie.nodes.size = 4 := by rw [hnodes]; rfl
  rw [outline, hsize, outlineFrom_of_node (by rw [hnodes]; rfl) hroot, List.map_singleton,
    outlineFrom_of_node (by rw [hnodes]; rfl) hinner, List.map_cons, List.map_singleton,
    outlineFrom_of_node (by rw [hnodes]; rfl) (hleaf 0),
    outlineFrom_of_node (by rw [hnodes]; rfl) (hleaf 1)]
  decide +kernel

/-- Two entries share the node of their first segments, whichever comes first. -/
theorem ofEntries_perm_sample :
    (ofEntries 0 [literalEntry ["A", "c"], literalEntry ["a", "b"]]).outline =
      "order 0\n  /\n    a\n      b  => a/b\n      c  => A/c\n" := by
  have hperm : [literalEntry ["a", "b"], literalEntry ["A", "c"]].Perm
      [literalEntry ["A", "c"], literalEntry ["a", "b"]] := List.Perm.swap _ _ _
  rw [← (ofEntries_perm 0 hperm (by decide +kernel)).2.1]
  exact outline_sampleTrie

end Trie

end UrlRouting
