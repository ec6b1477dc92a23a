import UrlRouting.Proofs.Bindings
import UrlRouting.Proofs.Text.Folding
import UrlRouting.Proofs.Trie.Candidates

/-!
# Where case does not count

Literals of a template are compared with the pieces of a path by `sameText`, while the nodes of a
trie and the values of a route are kept under folded names. The two notions are one
(`fold_and_sameText_agree`): a literal stands in a trie under the folded form of exactly those
pieces that are equal to it up to case, and a name that is folded already finds the same value.
-/

namespace UrlRouting

open Text

namespace Trie

variable {τ : Type}

/-- The node that some branches lead to from the root. -/
def nodeFor? (t : Trie τ) (label : List Branch) : Option Nat :=
  label.foldlM (fun i b => t.nodes[i]?.bind (·.child? b)) 0

theorem nodeFor?_concat (t : Trie τ) (label : List Branch) (b : Branch) :
    t.nodeFor? (label ++ [b]) =
      (t.nodeFor? label).bind fun i => t.nodes[i]?.bind (·.child? b) := by
  simp [nodeFor?, List.foldlM_append]

end Trie

/-- The branches of a label lead from the root to the node that has the label. -/
theorem Labelled.nodeFor? {τ : Type} {t : Trie τ} {labels : List (List Branch)}
    {ends : List Branch → List Nat} (h : Labelled t.nodes labels ends) {label : List Branch}
    {i : Nat} (hi : labels[i]? = some label) : t.nodeFor? label = some i := by
  induction label using List.reverseRecOn generalizing i with
  | nil => rw [h.position_unique hi h.root]; rfl
  | append_singleton label b ih =>
    obtain ⟨j, hj⟩ := List.getElem?_of_mem (h.parent label b (List.mem_of_getElem? hi))
    obtain ⟨n, hn, hat⟩ := h.exists_node hj
    rw [Trie.nodeFor?_concat, ih hj, Option.bind_some, hn, Option.bind_some, hat.child, hi]

namespace Trie.Grown

variable {τ : Type} {order : Int} {es : List (Inbound τ)} {t : Trie τ} {e : Inbound τ}

/-- A literal of an entry stands under the folded form of the pieces that are equal to it up to
case, and under no other one. -/
theorem literal_child (h : Grown order es t) (he : e ∈ es) {front back : List Segment}
    {text : String} (hsegments : e.pattern.template.segments = front ++ [.literal text] :: back) :
    ∃ i n j, t.nodeFor? (front.map Segment.branch) = some i ∧ t.nodes[i]? = some n ∧
      t.nodeFor? ((front ++ [[Part.literal text]]).map Segment.branch) = some j ∧
      ∀ piece, sameText text piece ↔ n.child? (.literal (fold piece)) = some j := by
  obtain ⟨-, labels, ends, hl, hends⟩ := h.labelled
  have hmem : e.branches ∈ labels := branches_mem_labels hl (hends _) he
  have hbranches : e.branches = (front ++ [[Part.literal text]]).map Segment.branch ++
      back.map Segment.branch := by
    rw [Inbound.branches, hsegments]
    simp
  have hchild : (front ++ [[Part.literal text]]).map Segment.branch ∈ labels :=
    hl.mem_of_prefix hmem (hbranches ▸ List.prefix_append _ _)
  obtain ⟨j, hj⟩ := List.getElem?_of_mem hchild
  have hlabel : (front ++ [[Part.literal text]]).map Segment.branch =
      front.map Segment.branch ++ [.literal (fold text)] := by
    simp [Segment.branch]
  obtain ⟨i, hi⟩ := List.getElem?_of_mem (hl.parent _ _ (hlabel ▸ hchild))
  obtain ⟨n, hn, hat⟩ := hl.exists_node hi
  refine ⟨i, n, j, hl.nodeFor? hi, hn, hl.nodeFor? hj, fun piece => ?_⟩
  rw [hlabel] at hj
  rw [sameText_iff, hat.child, hj]
  simp

end Trie.Grown

/-- **Case is one thing everywhere**: two texts are equal up to case if and only if they have one
folded form, and folding a folded form changes nothing. So in a trie grown from entries a literal
is found under the folded form of a piece if and only if the piece is equal to it up to case, and
route values have for a folded name what they have for the name. -/
theorem fold_and_sameText_agree :
    (∀ a b, sameText a b ↔ fold a = fold b) ∧
    (∀ a, fold (fold a) = fold a) ∧
    (∀ (τ : Type) (order : Int) (es : List (Inbound τ)) (t : Trie τ), Trie.Grown order es t →
      ∀ e ∈ es, ∀ front text back,
        e.pattern.template.segments = front ++ [.literal text] :: back →
          ∃ i n j, t.nodeFor? (front.map Segment.branch) = some i ∧ t.nodes[i]? = some n ∧
            t.nodeFor? ((front ++ [[Part.literal text]]).map Segment.branch) = some j ∧
            ∀ piece, sameText text piece ↔ n.child? (.literal (fold piece)) = some j) ∧
    ∀ (vs : Bindings) (name : String), vs.find? (fold (fold name)) = vs.find? (fold name) ∧
      vs.get? (fold name) = vs.get? name ∧ vs.has (fold name) = vs.has name ∧
      vs.unbind (fold name) = vs.unbind name := by
  refine ⟨fun a b => sameText_iff, fold_fold, ?_, fun vs name => ?_⟩
  · intro τ order es t ht e he front text back hsegments
    exact ht.literal_child he hsegments
  · refine ⟨by rw [fold_fold], vs.get?_congr (fold_fold name), ?_, ?_⟩
    · rw [Bindings.has, fold_fold, Bindings.has]
    · rw [Bindings.unbind, fold_fold, Bindings.unbind]

namespace Trie

/-- An entry for a street. -/
def streetEntry : Inbound Unit where
  order := 0
  name? := none
  pattern := .ofTemplate
    { text := "map/ΟΔΟΣ", segments := [[.literal "map"], [.literal "ΟΔΟΣ"]] } .empty
  constraints := .empty
  target := ()

/-- The street is found in small letters, where its last one is a final sigma, and not with a sigma
that does not end a word. -/
theorem fold_and_sameText_agree_sample :
    ∃ i n j, ((empty 0).insertAll [streetEntry]).nodeFor? [.literal "map"] = some i ∧
      ((empty 0).insertAll [streetEntry]).nodes[i]? = some n ∧
      n.child? (.literal (fold "οδος")) = some j ∧ n.child? (.literal (fold "οδοσ")) ≠ some j := by
  obtain ⟨i, n, j, hi, hn, -, hchild⟩ := fold_and_sameText_agree.2.2.1 Unit 0 [streetEntry] _
    (grown_insertAll 0 [streetEntry]) streetEntry (List.mem_singleton_self _) [[.literal "map"]]
    "ΟΔΟΣ" [] rfl
  have hmap : [[Part.literal "map"]].map Segment.branch = [.literal "map"] := by decide +kernel
  rw [hmap] at hi
  refine ⟨i, n, j, hi, hn, (hchild "οδος").1 (by decide +kernel), fun hfound => ?_⟩
  exact absurd ((hchild "οδοσ").2 hfound) (by decide +kernel)

end Trie

end UrlRouting
