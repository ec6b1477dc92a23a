import UrlRouting.Trie.Basic
import UrlRouting.UrlPath

/-!
# Searching a trie

A walk follows the pieces of a path from the root and comes to each node whose branches they can
take, the more particular branch first. The entries that end at a node where no piece is left, or
at a node of a catch-all, are candidates; whether they really fit the path is not decided here.
-/

namespace UrlRouting

open Text

namespace TrieNode

/-- The children that a piece can lead to, the more particular branch first. -/
def childrenFor (n : TrieNode) (piece : String) : List Nat :=
  [.literal (fold piece), .constrained, .parameter, .constrainedCatchAll, .catchAll].filterMap
    n.child?

end TrieNode

namespace Trie

variable {τ : Type}

/-- The nodes that a walk from `node` comes to, each with the pieces that are left there. A walk
does not go beyond the node of a catch-all. -/
def visits (t : Trie τ) (node : Nat) : List String → List (TrieNode × List String)
  | [] => (t.nodes[node]?.map fun n => (n, [])).toList
  | piece :: pieces =>
    match t.nodes[node]? with
    | none => []
    | some n =>
      (n, piece :: pieces) ::
        if n.isCatchAll then []
        else (n.childrenFor piece).flatMap fun child => t.visits child pieces

/-- The positions of the candidates for a path, in the order in which they are tried. -/
def candidatePositions (t : Trie τ) (path : UrlPath) : List Nat :=
  (t.visits 0 path.pieces).flatMap fun (n, left) =>
    if n.isCatchAll || left.isEmpty then n.ends else []

/-- The candidates for a path, in the order in which they are tried. -/
def candidates (t : Trie τ) (path : UrlPath) : List (Inbound τ) :=
  (t.candidatePositions path).filterMap fun i => t.entries[i]?

end Trie

end UrlRouting
