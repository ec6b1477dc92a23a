import UrlRouting.Proofs.Trie.Order

/-!
# The tree of a trie and the walk on a stack

Whatever entries are inserted into a trie, and however often they are brought into order, its arena
is a tree (`Trie.IsTree`): the children of a node stand behind it, every node but the root is the
child of one node under one branch, and the depth of a node counts the segments that lead to it. A
walk need not be recursive then. `Trie.popped?` keeps the nodes that are still to come on a stack,
each with the number of pieces taken on the way to it; it takes a node off at most once, at its
depth, and comes to an end with the same candidates (`Trie.Grown.tree_and_walk`).
-/

namespace UrlRouting

open Text

/-! ### Children stand behind their parents -/

/-- Every child stands behind its parent in the arena. -/
def Rising (nodes : Array TrieNode) : Prop :=
  ∀ (i : Nat) n, nodes[i]? = some n → ∀ c ∈ n.children, i < c.2

namespace Rising

variable {nodes : Array TrieNode}

theorem single : Rising #[{}] := by
  rintro (_ | i) n hn
  · cases hn
    nofun
  · cases hn

/-- A change that leaves all children in place. -/
theorem map (h : Rising nodes) {f : TrieNode → TrieNode} (hf : ∀ n, (f n).children = n.children) :
    Rising (nodes.map f) := by
  intro i n hn c hc
  rw [Array.getElem?_map] at hn
  obtain ⟨n₀, hn₀, rfl⟩ := Option.map_eq_some_iff.1 hn
  exact h i n₀ hn₀ c (hf n₀ ▸ hc)

theorem addEnd (h : Rising nodes) (node entry : Nat) :
    Rising (nodes.modify node (·.addEnd entry)) := by
  intro i n hn c hc
  rw [Array.getElem?_modify] at hn
  split at hn
  · obtain ⟨n₀, hn₀, rfl⟩ := Option.map_eq_some_iff.1 hn
    exact h i n₀ hn₀ c hc
  · exact h i n hn c hc

/-- A new child stands at the end of the arena. -/
theorem childFor (h : Rising nodes) (node : Nat) (b : Branch) :
    Rising (childFor nodes node b).1 := by
  unfold UrlRouting.childFor
  split
  · exact h
  next parent hparent =>
    split
    · exact h
    · intro i n hn c hc
      rw [Array.getElem?_push, Array.size_modify] at hn
      split at hn
      · cases hn
        cases hc
      · rw [Array.getElem?_modify] at hn
        split at hn
        next hi =>
          subst hi
          obtain ⟨n₀, hn₀, rfl⟩ := Option.map_eq_some_iff.1 hn
          rcases List.mem_append.1 hc with hold | hnew
          · exact h _ n₀ hn₀ c hold
          · obtain rfl := List.mem_singleton.1 hnew
            exact (Array.getElem?_eq_some_iff.1 hn₀).1
        · exact h i n hn c hc

theorem threadSegments (h : Rising nodes) (r : RoutePattern) (entry node : Nat)
    (segments : List Segment) : Rising (threadSegments r entry nodes node segments) := by
  induction segments generalizing nodes node with
  | nil => exact h.addEnd node entry
  | cons s rest ih =>
    refine ih (Rising.childFor ?_ node s.branch) _
    split
    · exact h.addEnd node entry
    · exact h

end Rising

theorem Trie.Grown.rising {τ : Type} {order : Int} {es : List (Inbound τ)} {t : Trie τ}
    (h : Grown order es t) : Rising t.nodes := by
  induction h with
  | empty => exact .single
  | insert e _ ih => exact ih.threadSegments _ _ _ _
  | sort _ ih => exact ih.map fun _ => rfl

/-! ### The tree -/

namespace Trie

variable {τ : Type}

/-- The node at `i` has the one at `j` as a child under a branch. -/
def HasChild (t : Trie τ) (i : Nat) (b : Branch) (j : Nat) : Prop :=
  ∃ n, t.nodes[i]? = some n ∧ (b, j) ∈ n.children

/-- The nodes of a trie form a tree, and only entries of the trie end there. -/
structure IsTree (t : Trie τ) : Prop where
  /-- The root stands first. -/
  root : ∃ n, t.nodes[0]? = some n ∧ n.depth = 0
  /-- A child stands in the arena, behind its parent. -/
  behind : ∀ i b j, t.HasChild i b j → i < j ∧ j < t.nodes.size
  /-- A node has one child at most under a branch. -/
  distinct : ∀ (i : Nat) n, t.nodes[i]? = some n → (n.children.map Prod.fst).Nodup
  /-- Every node but the root is the child of one node under one branch. -/
  parent : ∀ j, 0 < j → j < t.nodes.size → ∃! p : Nat × Branch, t.HasChild p.1 p.2 j
  /-- A child lies one deeper than its parent. -/
  depth : ∀ (i : Nat) b (j : Nat) n child, t.HasChild i b j → t.nodes[i]? = some n →
    t.nodes[j]? = some child → child.depth = n.depth + 1
  /-- The nodes of catch-alls are the children under the branches of catch-alls. -/
  isCatchAll : ∀ (j : Nat) n, t.nodes[j]? = some n →
    (n.isCatchAll ↔ ∃ i b, t.HasChild i b j ∧ b.isCatchAll)
  /-- An entry that ends at a node is one of the trie, and ends there once. -/
  ends : ∀ (i : Nat) n, t.nodes[i]? = some n → n.ends.Nodup ∧ ∀ k ∈ n.ends, k < t.entries.size

end Trie

namespace Labelled

variable {τ : Type} {t : Trie τ} {labels : List (List Branch)} {ends : List Branch → List Nat}

/-- A node of the arena has a label. -/
theorem exists_label {nodes : Array TrieNode} (h : Labelled nodes labels ends) {i : Nat}
    {n : TrieNode} (hn : nodes[i]? = some n) :
    ∃ label, labels[i]? = some label ∧ NodeAt labels ends n label := by
  have hlt : i < labels.length := h.size ▸ (Array.getElem?_eq_some_iff.1 hn).1
  exact ⟨labels[i], List.getElem?_eq_getElem hlt,
    h.node i n _ hn (List.getElem?_eq_getElem hlt)⟩

/-- A child has a label that is one branch longer. -/
theorem hasChild_iff (h : Labelled t.nodes labels ends) {i j : Nat} {b : Branch} :
    t.HasChild i b j ↔
      ∃ label, labels[i]? = some label ∧ labels[j]? = some (label ++ [b]) := by
  constructor
  · rintro ⟨n, hn, hmem⟩
    obtain ⟨label, hi, hat⟩ := h.exists_label hn
    exact ⟨label, hi, (hat.child b j).1 (TrieNode.child?_of_mem hat.distinct hmem)⟩
  · rintro ⟨label, hi, hj⟩
    obtain ⟨n, hn, hat⟩ := h.exists_node hi
    obtain ⟨front, back, hchildren, -⟩ := List.lookup_eq_some_iff.1 ((hat.child b j).2 hj)
    exact ⟨n, hn, hchildren ▸ List.mem_append_right front List.mem_cons_self⟩

/-- A labelled arena in which children stand behind their parents is a tree. -/
theorem isTree (h : Labelled t.nodes labels ends) (hrising : Rising t.nodes)
    (hends : ∀ label, (ends label).Nodup ∧ ∀ k ∈ ends label, k < t.entries.size) :
    t.IsTree where
  root := by
    obtain ⟨n, hn, hat⟩ := h.exists_node h.root
    exact ⟨n, hn, hat.depth⟩
  behind := by
    intro i b j hchild
    obtain ⟨label, -, hj⟩ := h.hasChild_iff.1 hchild
    obtain ⟨n, hn, hmem⟩ := hchild
    exact ⟨hrising i n hn _ hmem, h.size ▸ (List.getElem?_eq_some_iff.1 hj).1⟩
  distinct := by
    intro i n hn
    obtain ⟨label, -, hat⟩ := h.exists_label hn
    exact hat.distinct
  parent := by
    intro j hj hlt
    obtain ⟨label, hlabel, -⟩ := h.exists_label (Array.getElem?_eq_getElem hlt)
    rcases List.eq_nil_or_concat label with rfl | ⟨front, b, rfl⟩
    · exact absurd (h.position_unique hlabel h.root) (Nat.ne_of_gt hj)
    · rw [List.concat_eq_append] at hlabel
      obtain ⟨i, hi⟩ := List.getElem?_of_mem (h.parent _ _ (List.mem_of_getElem? hlabel))
      refine ⟨(i, b), h.hasChild_iff.2 ⟨front, hi, hlabel⟩, ?_⟩
      rintro ⟨i', b'⟩ hchild
      obtain ⟨front', hi', hlabel'⟩ := h.hasChild_iff.1 hchild
      rw [hlabel, Option.some.injEq] at hlabel'
      obtain ⟨rfl, heq⟩ := List.append_inj' hlabel' rfl
      exact Prod.ext (h.position_unique hi' hi) (List.singleton_inj.1 heq).symm
  depth := by
    intro i b j n child hchild hn hc
    obtain ⟨label, hi, hj⟩ := h.hasChild_iff.1 hchild
    rw [(h.node i n label hn hi).depth, (h.node j child _ hc hj).depth, List.length_append,
      List.length_singleton]
  isCatchAll := by
    intro j n hn
    obtain ⟨label, hj, hat⟩ := h.exists_label hn
    rw [hat.isCatchAll]
    constructor
    · intro hcatchAll
      rcases List.eq_nil_or_concat label with rfl | ⟨front, b, rfl⟩
      · cases hcatchAll
      · rw [List.concat_eq_append] at hj hcatchAll
        obtain ⟨i, hi⟩ := List.getElem?_of_mem (h.parent _ _ (List.mem_of_getElem? hj))
        refine ⟨i, b, h.hasChild_iff.2 ⟨front, hi, hj⟩, ?_⟩
        simpa [endsInCatchAll] using hcatchAll
    · rintro ⟨i, b, hchild, hb⟩
      obtain ⟨front, -, hj'⟩ := h.hasChild_iff.1 hchild
      obtain rfl := Option.some.inj (hj.symm.trans hj')
      simpa [endsInCatchAll] using hb
  ends := by
    intro i n hn
    obtain ⟨label, -, hat⟩ := h.exists_label hn
    exact hat.ends ▸ hends label

end Labelled

/-! ### Depths counted along the way -/

/-- `childFor`, where the depth of a new child is told. -/
def childAtDepth (nodes : Array TrieNode) (node : Nat) (b : Branch) (depth : Nat) :
    Array TrieNode × Nat :=
  match nodes[node]? with
  | none => (nodes, node)
  | some n =>
    match n.child? b with
    | some id => (nodes, id)
    | none =>
      ((nodes.modify node (·.addChild b nodes.size)).push
        { depth, isCatchAll := b.isCatchAll }, nodes.size)

/-- `threadSegments`, where the depth is counted from segment to segment; `taken` of them lead to
`node`. -/
def threadCounting (r : RoutePattern) (entry : Nat) (nodes : Array TrieNode) (node taken : Nat) :
    List Segment → Array TrieNode
  | [] => nodes.modify node (·.addEnd entry)
  | s :: rest =>
    let marked :=
      if (s :: rest).all r.bindsWithoutPiece then nodes.modify node (·.addEnd entry) else nodes
    let (grown, next) := childAtDepth marked node s.branch (taken + 1)
    threadCounting r entry grown next (taken + 1) rest

namespace Labelled

variable {nodes : Array TrieNode} {labels : List (List Branch)} {ends : List Branch → List Nat}

theorem childAtDepth_eq (h : Labelled nodes labels ends) {i : Nat} {label : List Branch}
    (hi : labels[i]? = some label) (b : Branch) :
    childAtDepth nodes i b (label.length + 1) = childFor nodes i b := by
  obtain ⟨n, hn, hat⟩ := h.exists_node hi
  cases hb : n.child? b with
  | some id => simp [childAtDepth, childFor, hn, hb]
  | none => simp [childAtDepth, childFor, hn, hb, hat.depth]

/-- Counting the segments on the way gives every new node the depth that it has as a child. -/
theorem threadCounting_eq (h : Labelled nodes labels ends) (r : RoutePattern) (entry : Nat)
    {i : Nat} {start : List Branch} (hi : labels[i]? = some start) (segments : List Segment) :
    threadCounting r entry nodes i start.length segments =
      threadSegments r entry nodes i segments := by
  induction segments generalizing nodes labels ends i start with
  | nil => rfl
  | cons s rest ih =>
    obtain ⟨marked, hmarked, ends', hmark⟩ : ∃ marked, marked =
        (if (s :: rest).all r.bindsWithoutPiece then nodes.modify i (·.addEnd entry) else nodes) ∧
        ∃ ends', Labelled marked labels ends' := by
      split
      · exact ⟨_, rfl, _, h.of_addEnd hi entry⟩
      · exact ⟨_, rfl, _, h⟩
    obtain ⟨labels', hgrown, hnext, -⟩ := hmark.of_childFor hi s.branch
    have hbelow := ih hgrown hnext
    rw [List.length_append, List.length_singleton] at hbelow
    rw [threadCounting, threadSegments, ← hmarked]
    dsimp only
    rw [hmark.childAtDepth_eq hi, hbelow]

end Labelled

/-! ### The walk on a stack -/

/-- A node on the stack, with the number of pieces that were taken on the way to it. -/
structure Frame where
  /-- The position of the node. -/
  node : Nat
  /-- How many pieces have been taken. -/
  cursor : Nat
deriving Repr, DecidableEq

/-- The children to which a walk goes on with a piece. There are none behind a catch-all. -/
def TrieNode.nextFor (n : TrieNode) (piece : String) : List Nat :=
  if n.isCatchAll then [] else n.childrenFor piece

namespace Trie

variable {τ : Type}

/-- What takes the place of a frame on the stack, the top first: the children to which the walk goes
on with the next piece. There is no answer for a node that is not in the arena. -/
def below? (t : Trie τ) (pieces : List String) (f : Frame) : Option (List Frame) :=
  t.nodes[f.node]?.map fun n =>
    match pieces[f.cursor]? with
    | none => []
    | some piece => (n.nextFor piece).map fun child => ⟨child, f.cursor + 1⟩

/-- The frames that are taken off a stack until it is empty, if these are `fuel` at most and all
their nodes are in the arena. -/
def popped? (t : Trie τ) (pieces : List String) : Nat → List Frame → Option (List Frame)
  | _, [] => some []
  | 0, _ :: _ => none
  | fuel + 1, f :: stack =>
    match t.below? pieces f with
    | none => none
    | some below => (t.popped? pieces fuel (below ++ stack)).map (f :: ·)

/-- The positions that a frame yields when it is taken off. -/
def yielded (t : Trie τ) (pieces : List String) (f : Frame) : List Nat :=
  match t.nodes[f.node]? with
  | none => []
  | some n => if n.isCatchAll || f.cursor == pieces.length then n.ends else []

/-- The frames of the recursive walk from a node, with the pieces that are left there. -/
def frames (t : Trie τ) (node cursor : Nat) : List String → List Frame
  | [] => [⟨node, cursor⟩]
  | piece :: left =>
    ⟨node, cursor⟩ ::
      match t.nodes[node]? with
      | none => []
      | some n => (n.nextFor piece).flatMap fun child => t.frames child (cursor + 1) left

end Trie

namespace Labelled

variable {τ : Type} {t : Trie τ} {labels : List (List Branch)} {ends : List Branch → List Nat}

/-- A child to which a walk goes on has a label that is one branch longer. -/
theorem label_of_mem_nextFor {n : TrieNode} {label : List Branch}
    (hat : NodeAt labels ends n label) {piece : String} {child : Nat}
    (hchild : child ∈ n.nextFor piece) : ∃ b, labels[child]? = some (label ++ [b]) := by
  unfold TrieNode.nextFor at hchild
  split at hchild
  · cases hchild
  · obtain ⟨b, -, hfound⟩ := List.mem_filterMap.1 hchild
    exact ⟨b, (hat.child b child).1 hfound⟩

/-- The frames of a walk from a node lie below the node, as many branches as pieces are taken. -/
theorem label_of_mem_frames (h : Labelled t.nodes labels ends) (left : List String) {i : Nat}
    {label : List Branch} (hi : labels[i]? = some label) (cursor : Nat) {f : Frame}
    (hf : f ∈ t.frames i cursor left) :
    ∃ below, labels[f.node]? = some (label ++ below) ∧ f.cursor = cursor + below.length := by
  induction left generalizing i label cursor with
  | nil =>
    obtain rfl := List.mem_singleton.1 hf
    exact ⟨[], by rw [List.append_nil]; exact hi, rfl⟩
  | cons piece left ih =>
    obtain ⟨n, hn, hat⟩ := h.exists_node hi
    rw [Trie.frames, hn] at hf
    rcases List.mem_cons.1 hf with rfl | hf
    · exact ⟨[], by rw [List.append_nil]; exact hi, rfl⟩
    · obtain ⟨child, hchild, hf⟩ := List.mem_flatMap.1 hf
      obtain ⟨b, hlabel⟩ := label_of_mem_nextFor hat hchild
      obtain ⟨below, hnode, hcursor⟩ := ih hlabel (cursor + 1) hf
      refine ⟨b :: below, by rw [hnode, List.append_assoc]; rfl, ?_⟩
      rw [hcursor, List.length_cons]
      omega

/-- A walk takes a frame at the depth of its node. -/
theorem depth_of_mem_frames (h : Labelled t.nodes labels ends) (left : List String) {f : Frame}
    (hf : f ∈ t.frames 0 0 left) : ∃ n, t.nodes[f.node]? = some n ∧ f.cursor = n.depth := by
  obtain ⟨label, hlabel, hcursor⟩ := h.label_of_mem_frames left h.root 0 hf
  obtain ⟨n, hn, hat⟩ := h.exists_node hlabel
  exact ⟨n, hn, by rw [hcursor, hat.depth, Nat.zero_add, List.nil_append]⟩

/-- Children under different branches, and all below them, are different nodes. -/
theorem disjoint_children (h : Labelled t.nodes labels ends) {n : TrieNode} {label : List Branch}
    (hat : NodeAt labels ends n label) (piece : String) (left : List String) (cursor : Nat) :
    (n.childrenFor piece).Pairwise fun child child' =>
      List.Disjoint ((t.frames child cursor left).map Frame.node)
        ((t.frames child' cursor left).map Frame.node) := by
  have hbranches : (branchesFor piece).Nodup := by simp [branchesFor]
  refine List.Pairwise.filterMap _ ?_ hbranches
  intro b b' hne child hchild child' hchild' node hnode hnode'
  obtain ⟨f, hf, rfl⟩ := List.mem_map.1 hnode
  obtain ⟨f', hf', hsame⟩ := List.mem_map.1 hnode'
  obtain ⟨below, hbelow, -⟩ :=
    h.label_of_mem_frames left ((hat.child b child).1 hchild) cursor hf
  obtain ⟨below', hbelow', -⟩ :=
    h.label_of_mem_frames left ((hat.child b' child').1 hchild') cursor hf'
  rw [hsame, hbelow, Option.some.injEq, List.append_assoc, List.append_assoc,
    List.append_cancel_left_eq] at hbelow'
  exact hne (List.cons_eq_cons.1 hbelow').1

/-- A walk from a node comes to each node once. -/
theorem nodup_frames (h : Labelled t.nodes labels ends) (left : List String) {i : Nat}
    {label : List Branch} (hi : labels[i]? = some label) (cursor : Nat) :
    ((t.frames i cursor left).map Frame.node).Nodup := by
  induction left generalizing i label cursor with
  | nil => exact List.nodup_singleton _
  | cons piece left ih =>
    obtain ⟨n, hn, hat⟩ := h.exists_node hi
    rw [Trie.frames, hn]
    dsimp only
    rw [List.map_cons, List.nodup_cons]
    constructor
    · -- what is below has a longer label
      intro hmem
      obtain ⟨f, hf, hnode⟩ := List.mem_map.1 hmem
      obtain ⟨child, hchild, hf⟩ := List.mem_flatMap.1 hf
      obtain ⟨b, hlabel⟩ := label_of_mem_nextFor hat hchild
      obtain ⟨below, hbelow, -⟩ := h.label_of_mem_frames left hlabel (cursor + 1) hf
      dsimp only at hnode
      rw [hnode, hi, List.append_assoc] at hbelow
      simp at hbelow
    · rw [List.map_flatMap, List.nodup_flatMap]
      constructor
      · intro child hchild
        obtain ⟨b, hlabel⟩ := label_of_mem_nextFor hat hchild
        exact ih hlabel (cursor + 1)
      · unfold TrieNode.nextFor
        split
        · exact List.Pairwise.nil
        · exact h.disjoint_children hat piece left (cursor + 1)

/-- A walk comes to no more nodes than there are. -/
theorem length_frames_le (h : Labelled t.nodes labels ends) (left : List String) :
    (t.frames 0 0 left).length ≤ t.nodes.size := by
  have hsub : (t.frames 0 0 left).map Frame.node ⊆ List.range t.nodes.size := by
    intro i hi
    obtain ⟨f, hf, rfl⟩ := List.mem_map.1 hi
    obtain ⟨n, hn, -⟩ := h.depth_of_mem_frames left hf
    exact List.mem_range.2 (Array.getElem?_eq_some_iff.1 hn).1
  have hle := (List.subperm_of_subset (h.nodup_frames left h.root 0) hsub).length_le
  rwa [List.length_map, List.length_range] at hle

end Labelled

/-! ### The stack and the recursion -/

namespace Trie

variable {τ : Type}

/-- A frame is taken off with all frames of the walk from it before the stack that lies below. -/
def TakenFirst (t : Trie τ) (pieces left : List String) (f : Frame) : Prop :=
  ∀ (fuel : Nat) (stack : List Frame),
    t.popped? pieces ((t.frames f.node f.cursor left).length + fuel) (f :: stack) =
      (t.popped? pieces fuel stack).map (t.frames f.node f.cursor left ++ ·)

/-- Frames that lie on each other are taken off one after another. -/
theorem popped?_map {t : Trie τ} {pieces left : List String} {cursor : Nat} {children : List Nat}
    (h : ∀ child ∈ children, t.TakenFirst pieces left ⟨child, cursor⟩) (fuel : Nat)
    (stack : List Frame) :
    t.popped? pieces ((children.flatMap fun child => t.frames child cursor left).length + fuel)
        (children.map (fun child => ⟨child, cursor⟩) ++ stack) =
      (t.popped? pieces fuel stack).map
        ((children.flatMap fun child => t.frames child cursor left) ++ ·) := by
  induction children with
  | nil => simp
  | cons child children ih =>
    have hfirst := h child List.mem_cons_self
    rw [TakenFirst] at hfirst
    dsimp only at hfirst
    rw [List.flatMap_cons, List.length_append, Nat.add_assoc, List.map_cons, List.cons_append,
      hfirst, ih fun child' hchild' => h child' (List.mem_cons_of_mem _ hchild'), Option.map_map]
    simp only [Function.comp_def, List.append_assoc]

end Trie

namespace Labelled

variable {τ : Type} {t : Trie τ} {labels : List (List Branch)} {ends : List Branch → List Nat}

/-- The stack takes the frames in the order of the recursive walk. -/
theorem takenFirst (h : Labelled t.nodes labels ends) {pieces : List String} (left : List String)
    {taken : List String} (hpieces : pieces = taken ++ left) {i : Nat} {label : List Branch}
    (hi : labels[i]? = some label) : t.TakenFirst pieces left ⟨i, taken.length⟩ := by
  induction left generalizing taken i label with
  | nil =>
    obtain ⟨n, hn, -⟩ := h.exists_node hi
    have hbelow : t.below? pieces ⟨i, taken.length⟩ = some [] := by
      rw [Trie.below?, hn, Option.map_some, hpieces, List.append_nil,
        List.getElem?_eq_none (Nat.le_refl _)]
    intro fuel stack
    rw [Trie.frames, List.length_singleton, Nat.add_comm, Trie.popped?, hbelow]
    rfl
  | cons piece left ih =>
    obtain ⟨n, hn, hat⟩ := h.exists_node hi
    have hnext : pieces = (taken ++ [piece]) ++ left := by rw [hpieces, List.append_assoc]; rfl
    have hbelow : t.below? pieces ⟨i, taken.length⟩ =
        some ((n.nextFor piece).map fun child => ⟨child, taken.length + 1⟩) := by
      have hpiece : pieces[taken.length]? = some piece := by
        rw [hpieces, List.getElem?_append_right (Nat.le_refl _), Nat.sub_self]
        rfl
      rw [Trie.below?, hn, Option.map_some, hpiece]
    have hchildren : ∀ child ∈ n.nextFor piece,
        t.TakenFirst pieces left ⟨child, taken.length + 1⟩ := by
      intro child hchild
      obtain ⟨b, hlabel⟩ := label_of_mem_nextFor hat hchild
      have hchild := ih hnext hlabel
      rwa [List.length_append, List.length_singleton] at hchild
    intro fuel stack
    rw [Trie.frames, hn]
    dsimp only
    rw [List.length_cons, Nat.add_right_comm, Trie.popped?, hbelow]
    dsimp only
    rw [Trie.popped?_map hchildren, Option.map_map]
    rfl

/-- The stack is empty before more frames are taken off than there are nodes. -/
theorem popped?_root (h : Labelled t.nodes labels ends) (pieces : List String) :
    t.popped? pieces t.nodes.size [⟨0, 0⟩] = some (t.frames 0 0 pieces) := by
  obtain ⟨fuel, hfuel⟩ := Nat.exists_eq_add_of_le (h.length_frames_le pieces)
  have hpopped := h.takenFirst pieces (List.nil_append _).symm h.root fuel []
  rw [hfuel]
  refine hpopped.trans ?_
  rw [Trie.popped?, Option.map_some, List.append_nil]
  rfl

/-- The frames of a walk yield what the walk collects. -/
theorem yielded_frames (h : Labelled t.nodes labels ends) {pieces : List String}
    (left : List String) {taken : List String} (hpieces : pieces = taken ++ left) {i : Nat}
    {label : List Branch} (hi : labels[i]? = some label) :
    (t.frames i taken.length left).flatMap (t.yielded pieces) =
      (t.visits i left).flatMap collected := by
  induction left generalizing taken i label with
  | nil =>
    obtain ⟨n, hn, -⟩ := h.exists_node hi
    simp [Trie.frames, Trie.visits, Trie.yielded, hn, collected, hpieces]
  | cons piece left ih =>
    obtain ⟨n, hn, hat⟩ := h.exists_node hi
    have hnext : pieces = (taken ++ [piece]) ++ left := by rw [hpieces, List.append_assoc]; rfl
    have hhere : t.yielded pieces ⟨i, taken.length⟩ = collected (n, piece :: left) := by
      simp [Trie.yielded, hn, collected, hpieces]
    have hchildren : ∀ child ∈ n.nextFor piece,
        (t.frames child (taken.length + 1) left).flatMap (t.yielded pieces) =
          (t.visits child left).flatMap collected := by
      intro child hchild
      obtain ⟨b, hlabel⟩ := label_of_mem_nextFor hat hchild
      have hbelow := ih hnext hlabel
      rwa [List.length_append, List.length_singleton] at hbelow
    rw [Trie.frames, Trie.visits, hn]
    dsimp only
    rw [List.flatMap_cons, List.flatMap_cons, hhere, List.flatMap_assoc,
      List.flatMap_congr hchildren, ← List.flatMap_assoc]
    unfold TrieNode.nextFor
    split
    · rfl
    · rfl

end Labelled

namespace Trie

variable {τ : Type} {order : Int} {es : List (Inbound τ)} {t : Trie τ}

/-- Inserting another entry, the depths of the new nodes can be counted from the root on. -/
theorem Grown.insert_counting (h : Grown order es t) (e : Inbound τ) :
    (t.insert e).nodes =
      threadCounting e.pattern t.entries.size t.nodes 0 0 e.pattern.template.segments := by
  obtain ⟨-, labels, ends, hl, -⟩ := h.labelled
  exact (hl.threadCounting_eq e.pattern t.entries.size hl.root e.pattern.template.segments).symm

theorem Grown.isTree (h : Grown order es t) : t.IsTree := by
  obtain ⟨hes, labels, ends, hl, hends⟩ := h.labelled
  refine hl.isTree h.rising fun label => ⟨?_, fun k hk => ?_⟩
  · exact (hends label).nodup_iff.2 (List.nodup_range.filter _)
  · have hlt := List.mem_range.1 (List.mem_filter.1 ((hends label).mem_iff.1 hk)).1
    rwa [← hes, Array.length_toList] at hlt

/-- A frame yields positions of entries of the trie. -/
theorem IsTree.lt_of_mem_yielded (h : t.IsTree) {pieces : List String} {f : Frame} {k : Nat}
    (hk : k ∈ t.yielded pieces f) : k < t.entries.size := by
  unfold yielded at hk
  split at hk
  · cases hk
  next n hn =>
    split at hk
    · exact (h.ends f.node n hn).2 k hk
    · cases hk

/-- **The arena is a tree, and the walk on it ends**: whatever entries are inserted into a trie and
however often they are brought into order, its nodes form a tree, and the depths of the nodes that
another entry needs can be counted from the root on. A walk on a stack, over any pieces, takes no
more nodes off than there are: all in the arena, each once, and with as many pieces taken as the
node is deep. What they yield are the candidates, positions of entries of the trie. -/
theorem Grown.tree_and_walk (h : Grown order es t) :
    t.IsTree ∧
    (∀ e : Inbound τ, (t.insert e).nodes =
      threadCounting e.pattern t.entries.size t.nodes 0 0 e.pattern.template.segments) ∧
    ∀ path : UrlPath, ∃ popped : List Frame,
      t.popped? path.pieces t.nodes.size [⟨0, 0⟩] = some popped ∧
      (popped.map Frame.node).Nodup ∧
      (∀ f ∈ popped, ∃ n, t.nodes[f.node]? = some n ∧ f.cursor = n.depth) ∧
      popped.flatMap (t.yielded path.pieces) = t.candidatePositions path ∧
      ∀ k ∈ t.candidatePositions path, k < t.entries.size := by
  refine ⟨h.isTree, h.insert_counting, fun path => ?_⟩
  obtain ⟨-, labels, ends, hl, -⟩ := h.labelled
  have hyield : (t.frames 0 0 path.pieces).flatMap (t.yielded path.pieces) =
      t.candidatePositions path :=
    hl.yielded_frames path.pieces (List.nil_append _).symm hl.root
  refine ⟨t.frames 0 0 path.pieces, hl.popped?_root path.pieces,
    hl.nodup_frames path.pieces hl.root 0, fun f => hl.depth_of_mem_frames path.pieces, hyield,
    fun k hk => ?_⟩
  rw [← hyield] at hk
  obtain ⟨f, -, hk⟩ := List.mem_flatMap.1 hk
  exact h.isTree.lt_of_mem_yielded hk

/-- An entry whose last segment is a catch-all. -/
def fileEntry : Inbound Unit where
  order := 0
  name? := none
  pattern := .ofTemplate (.ofSegments
    [[.literal "a"], [.parameter { name := "rest", isCatchAll := true }]]) .empty
  constraints := .empty
  target := ()

/-- Below `a` the literal is taken off before the catch-all, though its node was made last. -/
theorem tree_and_walk_sample :
    ∃ popped : List Frame,
      ((empty 0).insertAll [fileEntry, literalEntry ["a", "b"]]).popped? ["a", "b", "c"] 4
        [⟨0, 0⟩] = some popped ∧ (popped.map Frame.node).Nodup ∧
      popped = [⟨0, 0⟩, ⟨1, 1⟩, ⟨3, 2⟩, ⟨2, 2⟩] := by
  obtain ⟨popped, hpopped, hnodup, -⟩ :=
    (Grown.tree_and_walk (grown_insertAll 0 [fileEntry, literalEntry ["a", "b"]])).2.2
      ⟨["a", "b", "c"]⟩
  have hsize : ((empty 0).insertAll [fileEntry, literalEntry ["a", "b"]]).nodes.size = 4 := by
    decide +kernel
  have heval : ((empty 0).insertAll [fileEntry, literalEntry ["a", "b"]]).popped? ["a", "b", "c"]
      4 [⟨0, 0⟩] = some [⟨0, 0⟩, ⟨1, 1⟩, ⟨3, 2⟩, ⟨2, 2⟩] := by
    decide +kernel
  rw [hsize] at hpopped
  exact ⟨popped, hpopped, hnodup, Option.some.inj (hpopped.symm.trans heval)⟩

end Trie

end UrlRouting
