import UrlRouting.Text.Numeral
import UrlRouting.Trie.Basic

/-!
# Outlines of tries

A trie as text: a line that tells its order and then a line for each node, indented by its depth,
with the templates that end there.
-/

namespace UrlRouting

open Text

/-- How a branch is shown. -/
def Branch.label : Branch → String
  | literal text => text
  | constrained => "\x7b:constrained\x7d"
  | parameter => "\x7bparam\x7d"
  | constrainedCatchAll => "\x7b*:constrained\x7d"
  | catchAll => "\x7b*catch-all\x7d"

/-- The text of a literal branch. -/
def Branch.literal? : Branch → Option String
  | literal text => some text
  | _ => none

namespace TrieNode

/-- The literal children in the order of their texts. -/
def literals (n : TrieNode) : List (String × Nat) :=
  (n.children.filterMap fun (b, id) => b.literal?.map fun text => (text, id)).mergeSort
    fun a b => decide (a.1 ≤ b.1)

/-- The branches of the children that are no literals, the more particular first. -/
def otherBranches : List Branch := [.constrained, .parameter, .constrainedCatchAll, .catchAll]

/-- All children as they are shown: literals by text, then the others. -/
def shownChildren (n : TrieNode) : List (String × Nat) :=
  n.literals ++ otherBranches.filterMap fun b => (n.child? b).map fun id => (b.label, id)

end TrieNode

namespace Trie

variable {τ : Type}

/-- The line of a node. -/
def outlineLine (t : Trie τ) (n : TrieNode) (label : String) (indent : Nat) : String :=
  let templates := n.ends.filterMap fun i => t.entries[i]?.map Inbound.templateText
  String.ofList (List.replicate (indent * 2) ' ') ++ label
    ++ (if n.ends.isEmpty then "" else "  => " ++ ", ".intercalate templates) ++ "\n"

/-- The lines of a node and of all below it, down to `fuel` levels. -/
def outlineFrom (t : Trie τ) : Nat → Nat → String → Nat → String
  | 0, _, _, _ => ""
  | fuel + 1, node, label, indent =>
    match t.nodes[node]? with
    | none => ""
    | some n =>
      t.outlineLine n label indent
        ++ String.join (n.shownChildren.map fun (text, child) =>
          t.outlineFrom fuel child text (indent + 1))

/-- The outline of a trie. No node lies deeper than there are nodes. -/
def outline (t : Trie τ) : String :=
  "order " ++ decimal t.order ++ "\n" ++ t.outlineFrom t.nodes.size 0 "/" 1

end Trie

end UrlRouting
