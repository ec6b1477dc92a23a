import UrlRouting.Trie.Basic
import Mathlib.Data.List.Induction
import Mathlib.Data.List.Nodup

/-!
# The arena of a trie

The nodes of a trie stand in an arena and refer to each other by position. To speak of them
without positions, each node gets a label: the branches that lead to it from the root. An arena
is `Labelled` when different nodes have different labels and the child of a node under a branch
is the node whose label is one branch longer; that is what makes it a tree. Inserting an entry
keeps an arena labelled and lets the entry end exactly where `endsFrom` says
(`Labelled.threadSegments`).
-/

namespace UrlRouting

/-- Whether an entry whose remaining segments are these ends at the node that some branches lead
to: the branches are those of the first segments, and all others can go without a piece. -/
def RoutePattern.endsAt (r : RoutePattern) : List Segment → List Branch → Bool
  | segments, [] => segments.all r.bindsWithoutPiece
  | [], _ :: _ => false
  | s :: segments, b :: label => s.branch == b && r.endsAt segments label

/-- Whether an entry that is inserted from the node labelled `start` ends at the one labelled
`label`. -/
def RoutePattern.endsFrom (r : RoutePattern) (segments : List Segment)
    (start label : List Branch) : Bool :=
  start.isPrefixOf label && r.endsAt segments (label.drop start.length)

/-- Whether the last branch of a label takes all pieces that are left. -/
def endsInCatchAll (label : List Branch) : Bool := label.getLast?.any (·.isCatchAll)

/-- What a node with a label holds. -/
structure NodeAt (labels : List (List Branch)) (ends : List Branch → List Nat) (n : TrieNode)
    (label : List Branch) : Prop where
  /-- As many segments lead to the node as its label has branches. -/
  depth : n.depth = label.length
  /-- Whether a catch-all leads to it. -/
  isCatchAll : n.isCatchAll = endsInCatchAll label
  /-- The entries that end there. -/
  ends : n.ends = ends label
  /-- It has one child at most under a branch. -/
  distinct : (n.children.map Prod.fst).Nodup
  /-- Its children are the nodes whose labels are one branch longer. -/
  child : ∀ b (j : Nat), n.child? b = some j ↔ labels[j]? = some (label ++ [b])

/-- An arena whose nodes have labels; `ends` says which entries end under a label. -/
structure Labelled (nodes : Array TrieNode) (labels : List (List Branch))
    (ends : List Branch → List Nat) : Prop where
  /-- Every node has one label. -/
  size : nodes.size = labels.length
  /-- No branch leads to the root. -/
  root : labels[0]? = some []
  /-- Different nodes have different labels. -/
  nodup : labels.Nodup
  /-- Every node but the root is a child of one. -/
  parent : ∀ label b, label ++ [b] ∈ labels → label ∈ labels
  /-- Every node holds what its label says. -/
  node : ∀ (i : Nat) n label, nodes[i]? = some n → labels[i]? = some label → NodeAt labels ends n label
  /-- Nothing ends where there is no node. -/
  absent : ∀ label, label ∉ labels → ends label = []

namespace Labelled

variable {nodes : Array TrieNode} {labels : List (List Branch)} {ends : List Branch → List Nat}

/-- The arena of a trie without entries. -/
theorem single : Labelled #[{}] [[]] fun _ => [] where
  size := rfl
  root := rfl
  nodup := by simp
  parent := by simp
  node := by
    rintro (_ | i) n label hn hl
    · cases hn
      cases hl
      refine ⟨rfl, rfl, rfl, List.nodup_nil, fun b j => ?_⟩
      rcases j with _ | j <;> simp [TrieNode.child?]
    · cases hl
  absent := by simp

theorem congr {ends' : List Branch → List Nat} (h : Labelled nodes labels ends)
    (he : ∀ label, ends' label = ends label) : Labelled nodes labels ends' := by
  rwa [funext he]

/-- A label belongs to one node. -/
theorem position_unique (h : Labelled nodes labels ends) {i j : Nat} {label : List Branch}
    (hi : labels[i]? = some label) (hj : labels[j]? = some label) : i = j :=
  (List.getElem?_inj (List.getElem?_eq_some_iff.1 hi).1 h.nodup).1 (hi.trans hj.symm)

/-- A label belongs to a node. -/
theorem exists_node (h : Labelled nodes labels ends) {i : Nat} {label : List Branch}
    (hi : labels[i]? = some label) : ∃ n, nodes[i]? = some n ∧ NodeAt labels ends n label := by
  obtain ⟨hlt, -⟩ := List.getElem?_eq_some_iff.1 hi
  rw [← h.size] at hlt
  exact ⟨nodes[i], Array.getElem?_eq_getElem hlt,
    h.node i _ label (Array.getElem?_eq_getElem hlt) hi⟩

/-- No node stands below a label that no node has. -/
theorem absent_below (h : Labelled nodes labels ends) {label : List Branch}
    (hl : label ∉ labels) (below : List Branch) : label ++ below ∉ labels := by
  induction below using List.reverseRecOn with
  | nil => simpa using hl
  | append_singleton below b ih =>
    intro hmem
    rw [← List.append_assoc] at hmem
    exact ih (h.parent _ _ hmem)

/-- A label of a node has the labels of nodes in front of it. -/
theorem mem_of_prefix (h : Labelled nodes labels ends) {front label : List Branch}
    (hl : label ∈ labels) (hfront : front <+: label) : front ∈ labels := by
  obtain ⟨below, rfl⟩ := hfront
  by_contra habsent
  exact h.absent_below habsent below hl

/-- Letting an entry end at a node. -/
theorem of_addEnd (h : Labelled nodes labels ends) {i : Nat} {label : List Branch}
    (hi : labels[i]? = some label) (entry : Nat) :
    Labelled (nodes.modify i (·.addEnd entry)) labels
      fun l => ends l ++ if l = label then [entry] else [] where
  size := by rw [Array.size_modify, h.size]
  root := h.root
  nodup := h.nodup
  parent := h.parent
  node := by
    intro j n' l hn hl
    rw [Array.getElem?_modify] at hn
    split at hn
    next hij =>
      subst hij
      obtain rfl : label = l := Option.some.inj (hi.symm.trans hl)
      obtain ⟨n, hn₀, rfl⟩ := Option.map_eq_some_iff.1 hn
      have hat := h.node i n label hn₀ hi
      exact ⟨hat.depth, hat.isCatchAll, by simp [TrieNode.addEnd, hat.ends], hat.distinct,
        hat.child⟩
    next hij =>
      have hat := h.node j n' l hn hl
      have hne : l ≠ label := by
        rintro rfl
        exact hij (h.position_unique hi hl)
      exact ⟨hat.depth, hat.isCatchAll, by simp [hat.ends, hne], hat.distinct, hat.child⟩
  absent := by
    intro l hl
    have hne : l ≠ label := by
      rintro rfl
      exact hl (List.mem_of_getElem? hi)
    simp [h.absent l hl, hne]

theorem child?_addChild (n : TrieNode) (b b' : Branch) (id : Nat) :
    (n.addChild b id).child? b' = (n.child? b').or (if b' = b then some id else none) := by
  unfold TrieNode.child? TrieNode.addChild
  rw [List.lookup_append]
  by_cases hb : b' = b
  · simp [hb]
  · simp [List.lookup_cons, beq_false_of_ne hb, hb]

/-- A child under a new branch leaves the branches of a node distinct. -/
theorem distinct_addChild {n : TrieNode} (h : (n.children.map Prod.fst).Nodup) {b : Branch}
    (hb : n.child? b = none) (id : Nat) : ((n.addChild b id).children.map Prod.fst).Nodup := by
  have hfresh : b ∉ n.children.map Prod.fst := by
    intro hmem
    obtain ⟨child, hchild, rfl⟩ := List.mem_map.1 hmem
    exact absurd (List.lookup_eq_none_iff.1 hb child hchild) (by simp)
  rw [TrieNode.addChild, List.map_append, List.map_singleton, ← List.concat_eq_append]
  exact h.concat hfresh

theorem getElem?_concat_eq_some {labels : List (List Branch)} {fresh label : List Branch}
    {j : Nat} : (labels ++ [fresh])[j]? = some label ↔
      labels[j]? = some label ∨ (j = labels.length ∧ fresh = label) := by
  rcases Nat.lt_trichotomy j labels.length with hj | rfl | hj
  · rw [List.getElem?_append_left hj]
    simp [Nat.ne_of_lt hj]
  · simp
  · rw [List.getElem?_eq_none (by simp; omega), List.getElem?_eq_none (by omega)]
    simp
    omega

/-- A child of its own leaves the rest of a node as it was. -/
theorem nodeAt_parent (h : Labelled nodes labels ends) {n : TrieNode} {label : List Branch}
    (hat : NodeAt labels ends n label) {b : Branch} (hb : n.child? b = none) :
    NodeAt (labels ++ [label ++ [b]]) ends (n.addChild b nodes.size) label := by
  refine ⟨hat.depth, hat.isCatchAll, hat.ends, distinct_addChild hat.distinct hb _, fun b' k => ?_⟩
  rw [child?_addChild, getElem?_concat_eq_some, Option.or_eq_some_iff, hat.child]
  by_cases hbb : b' = b
  · subst hbb
    simp [hb, h.size, eq_comm]
  · simp [hbb, Ne.symm hbb]

/-- A node is not touched by a child of another node. -/
theorem nodeAt_other (h : Labelled nodes labels ends) {i j : Nat} {n : TrieNode}
    {label l : List Branch} (hi : labels[i]? = some label) (hj : labels[j]? = some l)
    (hij : i ≠ j) (hat : NodeAt labels ends n l) (b : Branch) :
    NodeAt (labels ++ [label ++ [b]]) ends n l := by
  refine ⟨hat.depth, hat.isCatchAll, hat.ends, hat.distinct, fun b' k => ?_⟩
  rw [getElem?_concat_eq_some, hat.child]
  refine (or_iff_left_of_imp ?_).symm
  rintro ⟨-, heq⟩
  rw [(List.append_inj' heq rfl).1] at hi
  exact absurd (h.position_unique hi hj) hij

/-- Nothing ends at a new node, and it has no child. -/
theorem nodeAt_fresh (h : Labelled nodes labels ends) {depth : Nat} {label : List Branch}
    (hdepth : depth = label.length) {b : Branch} (hfresh : label ++ [b] ∉ labels) :
    NodeAt (labels ++ [label ++ [b]]) ends { depth := depth + 1, isCatchAll := b.isCatchAll }
      (label ++ [b]) := by
  refine ⟨by simp [hdepth], by simp [endsInCatchAll], (h.absent _ hfresh).symm, List.nodup_nil,
    fun b' j => ?_⟩
  constructor
  · intro hc
    cases hc
  · intro hj
    rcases getElem?_concat_eq_some.1 hj with hj | ⟨-, heq⟩
    · exact absurd (h.parent _ _ (List.mem_of_getElem? hj)) hfresh
    · simpa using congrArg List.length heq

/-- Making a child where there is none. -/
theorem grow (h : Labelled nodes labels ends) {i : Nat} {n : TrieNode} {label : List Branch}
    (hn : nodes[i]? = some n) (hi : labels[i]? = some label) {b : Branch}
    (hb : n.child? b = none) :
    Labelled ((nodes.modify i (·.addChild b nodes.size)).push
      { depth := n.depth + 1, isCatchAll := b.isCatchAll }) (labels ++ [label ++ [b]]) ends := by
  have hat := h.node i n label hn hi
  have hfresh : label ++ [b] ∉ labels := by
    intro hmem
    obtain ⟨j, hj⟩ := List.getElem?_of_mem hmem
    rw [(hat.child b j).2 hj] at hb
    cases hb
  refine ⟨?_, ?_, ?_, ?_, ?_, ?_⟩
  · simp [h.size]
  · exact getElem?_concat_eq_some.2 (Or.inl h.root)
  · rw [List.nodup_append]
    exact ⟨h.nodup, by simp, by rintro l hl _ (_ | ⟨_, ⟨⟩⟩) rfl; exact hfresh hl⟩
  · intro l b' hmem
    rw [List.mem_append, List.mem_singleton] at hmem ⊢
    rcases hmem with hmem | heq
    · exact Or.inl (h.parent l b' hmem)
    · rw [(List.append_inj' heq rfl).1]
      exact Or.inl (List.mem_of_getElem? hi)
  · intro j n' l hn' hl
    rw [Array.getElem?_push, Array.size_modify] at hn'
    rcases getElem?_concat_eq_some.1 hl with hl | ⟨rfl, rfl⟩
    · have hlt : j ≠ nodes.size := by
        rw [h.size]
        exact Nat.ne_of_lt (List.getElem?_eq_some_iff.1 hl).1
      rw [if_neg hlt, Array.getElem?_modify] at hn'
      split at hn'
      next hij =>
        subst hij
        obtain rfl : label = l := Option.some.inj (hi.symm.trans hl)
        rw [hn] at hn'
        cases hn'
        exact h.nodeAt_parent hat hb
      next hij => exact h.nodeAt_other hi hl hij (h.node j n' l hn' hl) b
    · rw [if_pos h.size.symm] at hn'
      cases hn'
      exact h.nodeAt_fresh hat.depth hfresh
  · intro l hl
    exact h.absent l fun hmem => hl (List.mem_append_left _ hmem)

/-- Finding the child of a node under a branch, or making it. No other node is made. -/
theorem of_childFor (h : Labelled nodes labels ends) {i : Nat} {label : List Branch}
    (hi : labels[i]? = some label) (b : Branch) :
    ∃ labels', Labelled (childFor nodes i b).1 labels' ends ∧
      labels'[(childFor nodes i b).2]? = some (label ++ [b]) ∧
      ∀ l ∈ labels', l ∈ labels ∨ l = label ++ [b] := by
  obtain ⟨n, hn, hat⟩ := h.exists_node hi
  unfold childFor
  rw [hn]
  simp only
  cases hb : n.child? b with
  | some id => exact ⟨labels, h, (hat.child b id).1 hb, fun l hl => Or.inl hl⟩
  | none =>
    refine ⟨_, h.grow hn hi hb, by rw [h.size, List.getElem?_concat_length], fun l hl => ?_⟩
    rwa [List.mem_append, List.mem_singleton] at hl

end Labelled

namespace RoutePattern

variable (r : RoutePattern)

/-- An entry ends at the node it is inserted from if all its segments can go without a piece. -/
theorem endsFrom_self (segments : List Segment) (start : List Branch) :
    r.endsFrom segments start start = segments.all r.bindsWithoutPiece := by
  cases segments <;> simp [endsFrom, endsAt]

/-- Below the node it is inserted from, an entry ends where it ends from the next node on. -/
theorem endsFrom_cons {s : Segment} {rest : List Segment} {start label : List Branch}
    (h : label ≠ start) :
    r.endsFrom (s :: rest) start label = r.endsFrom rest (start ++ [s.branch]) label := by
  rw [Bool.eq_iff_iff]
  simp only [endsFrom, Bool.and_eq_true, List.isPrefixOf_iff_prefix]
  constructor
  · rintro ⟨⟨below, rfl⟩, he⟩
    rw [List.drop_left] at he
    cases below with
    | nil => exact absurd (List.append_nil start) h
    | cons b below =>
      simp only [endsAt, Bool.and_eq_true, beq_iff_eq] at he
      obtain ⟨rfl, he⟩ := he
      have heq : start ++ s.branch :: below = (start ++ [s.branch]) ++ below := by simp
      rw [heq, List.drop_left]
      exact ⟨List.prefix_append _ _, he⟩
  · rintro ⟨⟨below, rfl⟩, he⟩
    rw [List.drop_left] at he
    rw [List.append_assoc, List.drop_left]
    exact ⟨List.prefix_append _ _, by simp [endsAt, he]⟩

/-- An entry does not end at the node it is inserted from on behalf of the next node. -/
theorem endsFrom_append_singleton (segments : List Segment) (start : List Branch) (b : Branch) :
    r.endsFrom segments (start ++ [b]) start = false := by
  rw [Bool.eq_false_iff]
  intro h
  simp only [endsFrom, Bool.and_eq_true, List.isPrefixOf_iff_prefix] at h
  have := h.1.length_le
  rw [List.length_append, List.length_singleton] at this
  omega

end RoutePattern

namespace Labelled

variable {nodes : Array TrieNode} {labels : List (List Branch)} {ends : List Branch → List Nat}

/-- Inserting an entry from a node on lets it end exactly where `endsFrom` says, and makes no nodes
but those that its segments lead to. -/
theorem of_threadSegments (h : Labelled nodes labels ends) (r : RoutePattern) (entry : Nat)
    {i : Nat} {start : List Branch} (hi : labels[i]? = some start) (segments : List Segment) :
    ∃ labels', Labelled (threadSegments r entry nodes i segments) labels'
        (fun label => ends label ++ if r.endsFrom segments start label then [entry] else []) ∧
      ∀ l ∈ labels', l ∈ labels ∨ l <+: start ++ segments.map Segment.branch := by
  induction segments generalizing nodes labels ends i start with
  | nil =>
    refine ⟨labels, (h.of_addEnd hi entry).congr fun label => ?_, fun l hl => Or.inl hl⟩
    by_cases hl : label = start
    · subst hl
      simp [r.endsFrom_self]
    · rw [if_neg hl, if_neg]
      simp only [RoutePattern.endsFrom, Bool.and_eq_true, List.isPrefixOf_iff_prefix]
      rintro ⟨⟨below, rfl⟩, he⟩
      rw [List.drop_left] at he
      cases below with
      | nil => exact hl (List.append_nil start)
      | cons b below => cases he
  | cons s rest ih =>
    -- first the entry may end here, then it goes on from the child
    have hmark : Labelled
        (if (s :: rest).all r.bindsWithoutPiece then nodes.modify i (·.addEnd entry) else nodes)
        labels fun label =>
          ends label ++ if label = start ∧ (s :: rest).all r.bindsWithoutPiece then [entry]
            else [] := by
      by_cases hall : (s :: rest).all r.bindsWithoutPiece
      · rw [if_pos hall]
        exact (h.of_addEnd hi entry).congr fun label => by simp [hall]
      · rw [if_neg hall]
        exact h.congr fun label => by simp [hall]
    obtain ⟨labels₁, h₁, hi₁, hmade₁⟩ := hmark.of_childFor hi s.branch
    obtain ⟨labels₂, h₂, hmade₂⟩ := ih h₁ hi₁
    have hstart : start ++ (s :: rest).map Segment.branch =
        start ++ [s.branch] ++ rest.map Segment.branch := by simp
    refine ⟨labels₂, h₂.congr fun label => ?_, fun l hl => ?_⟩
    · by_cases hl : label = start
      · subst hl
        simp [r.endsFrom_self, r.endsFrom_append_singleton]
      · simp [r.endsFrom_cons hl, hl]
    · rw [hstart]
      rcases hmade₂ l hl with hl | hl
      · rcases hmade₁ l hl with hl | rfl
        · exact Or.inl hl
        · exact Or.inr (List.prefix_append _ _)
      · exact Or.inr hl

end Labelled

end UrlRouting
