import UrlRouting.Regex.CharSet

/-!
# Search patterns

The structure of a search pattern, with the two measures that bound it: how deep it nests
and how much room the automaton for it takes.
-/

namespace UrlRouting

namespace Regex

/-- A condition on a place between characters. -/
inductive Look where
  /-- The beginning of the text. -/
  | textStart
  /-- The end of the text. -/
  | textEnd
  /-- The beginning of a line. -/
  | lineStart
  /-- The end of a line. -/
  | lineEnd
  /-- The beginning of a line, where lines may end in a carriage return. -/
  | lineStartCrlf
  /-- The end of a line, where lines may end in a carriage return. -/
  | lineEndCrlf
  /-- A word character on exactly one side. -/
  | wordBoundary
  /-- Word characters on both sides or on none. -/
  | notWordBoundary
  /-- A word begins. -/
  | wordStart
  /-- A word ends. -/
  | wordEnd
  /-- No word character before. -/
  | wordStartHalf
  /-- No word character after. -/
  | wordEndHalf
deriving Repr, DecidableEq

end Regex

/-- A search pattern. -/
inductive Regex where
  /-- Matches the empty text. -/
  | empty
  /-- Matches one character. -/
  | char (c : Char)
  /-- Matches a character of a set. -/
  | set (s : Regex.CharSet)
  /-- Matches the empty text where a condition holds. -/
  | look (l : Regex.Look)
  /-- Matches `r` from `min` to `max` times. -/
  | repeated (min : Nat) (max : Option Nat) (r : Regex)
  /-- Matches what `r` matches; written in parentheses that capture. The number counts the
  opening parentheses of such groups, and a group may have a name. -/
  | group (number : Nat) (name? : Option String) (r : Regex)
  /-- Matches the patterns one after another. -/
  | sequence (rs : List Regex)
  /-- Matches what one of the patterns matches. -/
  | choice (rs : List Regex)
deriving Repr, Inhabited

namespace Regex

/-- A sequence; of one pattern it is that pattern, of none it is empty. -/
def seqOf : List Regex → Regex
  | [] => empty
  | [r] => r
  | rs => sequence rs

/-- A choice; of one pattern it is that pattern. -/
def choiceOf : List Regex → Regex
  | [r] => r
  | rs => choice rs

/-- A repetition; none at all is empty, exactly once is the pattern itself. -/
def repeatOf (min : Nat) (max : Option Nat) (r : Regex) : Regex :=
  if min = 0 ∧ max = some 0 then empty
  else if min = 1 ∧ max = some 1 then r
  else repeated min max r

/-! ### Depth -/

mutual

/-- How many patterns stand around the innermost one. -/
def depth : Regex → Nat
  | repeated _ _ r => r.depth + 1
  | group _ _ r => r.depth + 1
  | sequence rs => depthAll rs + 1
  | choice rs => depthAll rs + 1
  | _ => 0

/-- The greatest depth of some patterns. -/
def depthAll : List Regex → Nat
  | [] => 0
  | r :: rs => max r.depth (depthAll rs)

end

/-! ### Room -/

mutual

/-- Whether the pattern matches the empty text. A condition on a place counts as empty. -/
def matchesEmpty : Regex → Bool
  | empty => true
  | look _ => true
  | repeated min _ r => min == 0 || r.matchesEmpty
  | group _ _ r => r.matchesEmpty
  | sequence rs => allMatchEmpty rs
  | choice rs => anyMatchesEmpty rs
  | _ => false

/-- Whether all of some patterns match the empty text. -/
def allMatchEmpty : List Regex → Bool
  | [] => true
  | r :: rs => r.matchesEmpty && allMatchEmpty rs

/-- Whether one of some patterns matches the empty text. -/
def anyMatchesEmpty : List Regex → Bool
  | [] => false
  | r :: rs => r.matchesEmpty || anyMatchesEmpty rs

end

/-- The room of a state of the automaton. -/
def stateRoom : Nat := 32

/-- The room of a branching state with `n` ways to go on. -/
def branchRoom (n : Nat) : Nat := stateRoom + 4 * n

mutual

/-- The room that the states of the automaton of a pattern take, in bytes. -/
def room : Regex → Nat
  | empty => stateRoom
  | char _ => stateRoom
  | set s => stateRoom + 8 * s.length
  | look _ => stateRoom
  | repeated 0 (some 1) r => branchRoom 2 + r.room + stateRoom
  | repeated 0 none r =>
    if r.matchesEmpty then r.room + branchRoom 2 + branchRoom 2 + stateRoom
    else branchRoom 2 + r.room
  | repeated min none r => min * r.room + branchRoom 2
  | repeated min (some max) r =>
    (if min = 0 then stateRoom else min * r.room)
      + (if min = max then 0 else stateRoom + (max - min) * (branchRoom 2 + r.room))
  | group _ _ r => stateRoom + r.room + stateRoom
  | sequence rs => roomAll rs
  | choice rs => branchRoom rs.length + stateRoom + roomAll rs

/-- The room of some patterns side by side. -/
def roomAll : List Regex → Nat
  | [] => 0
  | r :: rs => r.room + roomAll rs

end

/-! ### The table of groups -/

mutual

/-- The greatest number of a capture group, where the whole pattern has number zero. -/
def lastGroup : Regex → Nat
  | repeated _ _ r => r.lastGroup
  | group number _ r => max number r.lastGroup
  | sequence rs => lastGroupAll rs
  | choice rs => lastGroupAll rs
  | _ => 0

/-- The greatest number of a capture group in some patterns. -/
def lastGroupAll : List Regex → Nat
  | [] => 0
  | r :: rs => max r.lastGroup (lastGroupAll rs)

end

mutual

/-- The room that the names of the groups take, in bytes. -/
def namesRoom : Regex → Nat
  | repeated _ _ r => r.namesRoom
  | group _ name? r => (name?.elim 0 fun name => name.utf8ByteSize + 4) + r.namesRoom
  | sequence rs => namesRoomAll rs
  | choice rs => namesRoomAll rs
  | _ => 0

/-- The room that the names of the groups of some patterns take. -/
def namesRoomAll : List Regex → Nat
  | [] => 0
  | r :: rs => r.namesRoom + namesRoomAll rs

end

/-- The room of the table of groups: an entry for each number up to the last group, and the
names. -/
def groupTableRoom (r : Regex) : Nat := 16 * (r.lastGroup + 1) + r.namesRoom

/-- The room of the automaton that searches for a pattern. The whole pattern is a group, and
one more state is for success. -/
def totalRoom (r : Regex) : Nat := (group 0 none r).room + stateRoom + r.groupTableRoom

end Regex

end UrlRouting
