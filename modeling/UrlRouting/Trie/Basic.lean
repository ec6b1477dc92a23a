import UrlRouting.Route.Entry

/-!
# Tries of templates

A `Trie` holds the entries of one order. Its nodes stand in an arena, the root first, and refer
to each other by position; a node is reached by the branches that the segments of a template
take. An entry ends at the node of its last segment, and also at each node on the way from which
all remaining segments can go without a piece of a path.
-/

namespace UrlRouting

open Text

/-- The way that a segment takes from a node to a child. -/
inductive Branch where
  /-- A literal, folded. -/
  | literal (text : String)
  /-- A constrained parameter, or a segment of several parts. -/
  | constrained
  /-- A parameter without a constraint. -/
  | parameter
  /-- A constrained catch-all. -/
  | constrainedCatchAll
  /-- A catch-all without a constraint. -/
  | catchAll
deriving Repr, DecidableEq

/-- Whether a branch takes all pieces that are left. -/
def Branch.isCatchAll : Branch → Bool
  | constrainedCatchAll | catchAll => true
  | _ => false

/-- The branch that a segment takes. -/
def Segment.branch : Segment → Branch
  | [.literal text] => .literal (fold text)
  | [.parameter p] =>
    match p.isCatchAll, p.isConstrained with
    | false, true => .constrained
    | false, false => .parameter
    | true, true => .constrainedCatchAll
    | true, false => .catchAll
  | _ => .constrained

/-- A node of a trie. -/
structure TrieNode where
  /-- How many segments lead to the node. -/
  depth : Nat := 0
  /-- Whether a catch-all leads to the node. -/
  isCatchAll : Bool := false
  /-- The positions of the entries that end here. -/
  ends : List Nat := []
  /-- The children under their branches, in the order in which they were made. -/
  children : List (Branch × Nat) := []
deriving Repr, DecidableEq, Inhabited

namespace TrieNode

/-- The child under a branch. -/
def child? (n : TrieNode) (b : Branch) : Option Nat := n.children.lookup b

/-- Adds a child. -/
def addChild (n : TrieNode) (b : Branch) (id : Nat) : TrieNode :=
  { n with children := n.children ++ [(b, id)] }

/-- Lets an entry end here. -/
def addEnd (n : TrieNode) (entry : Nat) : TrieNode := { n with ends := n.ends ++ [entry] }

end TrieNode

/-- The entries of one order under their templates. -/
structure Trie (τ : Type) where
  /-- The order of the entries. -/
  order : Int
  /-- The nodes, the root first. -/
  nodes : Array TrieNode
  /-- The entries in the order in which they were inserted. -/
  entries : Array (Inbound τ)

/-! ### The arena -/

/-- Finds the child of a node under a branch, and makes one at the end of the arena if there is
none. -/
def childFor (nodes : Array TrieNode) (node : Nat) (b : Branch) : Array TrieNode × Nat :=
  match nodes[node]? with
  | none => (nodes, node)
  | some n =>
    match n.child? b with
    | some id => (nodes, id)
    | none =>
      ((nodes.modify node (·.addChild b nodes.size)).push
        { depth := n.depth + 1, isCatchAll := b.isCatchAll }, nodes.size)

/-- Lets an entry end at the node that its segments lead to from `node`, and on the way wherever
the segments that are left can all go without a piece. -/
def threadSegments (r : RoutePattern) (entry : Nat) (nodes : Array TrieNode) (node : Nat) :
    List Segment → Array TrieNode
  | [] => nodes.modify node (·.addEnd entry)
  | s :: rest =>
    let marked :=
      if (s :: rest).all r.bindsWithoutPiece then nodes.modify node (·.addEnd entry) else nodes
    let (grown, next) := childFor marked node s.branch
    threadSegments r entry grown next rest

/-- Whether an entry is tried before another where both end at one node, or is equal to it: by
rank, and by the text of the template up to case. -/
def Inbound.isLE {τ : Type} (a b : Inbound τ) : Bool :=
  ((compareRanks a.pattern.template.matchRank b.pattern.template.matchRank).then
    (compare (fold a.templateText) (fold b.templateText))).isLE

namespace Trie

variable {τ : Type}

/-- A trie without entries. -/
def empty (order : Int) : Trie τ := ⟨order, #[{}], #[]⟩

/-- Adds an entry. -/
def insert (t : Trie τ) (e : Inbound τ) : Trie τ where
  order := t.order
  nodes := threadSegments e.pattern t.entries.size t.nodes 0 e.pattern.template.segments
  entries := t.entries.push e

/-- Adds entries one after another. -/
def insertAll (t : Trie τ) (es : List (Inbound τ)) : Trie τ := es.foldl insert t

/-- Compares the entries at two positions. -/
def endsLE (t : Trie τ) (i j : Nat) : Bool :=
  match t.entries[i]?, t.entries[j]? with
  | some a, some b => a.isLE b
  | _, _ => true

/-- Brings the entries that end at each node into the order in which they are tried. -/
def sortEnds (t : Trie τ) : Trie τ :=
  { t with nodes := t.nodes.map fun n => { n with ends := n.ends.mergeSort t.endsLE } }

/-- The trie of some entries, ready to be searched. -/
def ofEntries (order : Int) (es : List (Inbound τ)) : Trie τ :=
  ((empty order).insertAll es).sortEnds

end Trie

end UrlRouting
