/-!
# Sets of bits

A set of numbers below a fixed capacity, stored as bits of machine words. Inclusion and
disjointness are decided a word at a time.
-/

namespace UrlRouting

/-- A set of numbers, stored as bits of words. -/
structure BitSet where
  /-- The words; bit `i % 64` of word `i / 64` stands for `i`. -/
  words : List (BitVec 64)
deriving Repr, DecidableEq

namespace BitSet

/-- The empty set of numbers below `capacity`. -/
def withCapacity (capacity : Nat) : BitSet := ⟨List.replicate ((capacity + 63) / 64) 0⟩

/-- Adds a number below the capacity. -/
def insert (s : BitSet) (i : Nat) : BitSet :=
  ⟨s.words.modify (i / 64) (· ||| BitVec.twoPow 64 (i % 64))⟩

/-- Whether a number belongs to the set. -/
def contains (s : BitSet) (i : Nat) : Bool := (s.words[i / 64]?.getD 0).getLsbD (i % 64)

/-- Whether all numbers of a set belong to another one of the same capacity. -/
def isSubset (s t : BitSet) : Bool :=
  (List.zipWith (fun a b => a &&& ~~~b == 0) s.words t.words).all id

/-- Whether no number belongs to both of two sets of the same capacity. -/
def isDisjoint (s t : BitSet) : Bool :=
  (List.zipWith (fun a b => a &&& b == 0) s.words t.words).all id

/-- The set of some numbers below `capacity`. -/
def ofList (capacity : Nat) (is : List Nat) : BitSet := is.foldl insert (withCapacity capacity)

end BitSet

end UrlRouting
