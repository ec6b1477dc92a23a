import UrlRouting.Template.Basic

/-!
# Ranks of templates

Every segment has a rank from one to six, the higher the more particular. The ranks of a
template, compared from the left, order templates for links, and the ranks counted down from
seven order them for requests.
-/

namespace UrlRouting

/-- How particular a segment is: six for a literal, five for several parts, then constrained
parameter, parameter, constrained catch-all and catch-all. -/
def Segment.rank : Segment → Nat
  | [.literal _] => 6
  | [.parameter p] =>
    match p.isCatchAll, p.isConstrained with
    | false, true => 4
    | false, false => 3
    | true, true => 2
    | true, false => 1
  | _ => 5

namespace Template

/-- Orders templates for links: greater ranks come first. -/
def linkRank (t : Template) : List Nat := t.segments.map Segment.rank

/-- Orders templates for requests: smaller ranks come first. -/
def matchRank (t : Template) : List Nat := t.segments.map fun s => 7 - s.rank

end Template

/-- Compares two lists of ranks from the left; a list comes before its continuations. -/
def compareRanks : List Nat → List Nat → Ordering
  | [], [] => .eq
  | [], _ :: _ => .lt
  | _ :: _, [] => .gt
  | a :: as, b :: bs => (compare a b).then (compareRanks as bs)

/-- Lists of ranks are compared as lists of numbers. -/
theorem compareRanks_eq (as bs : List Nat) : compareRanks as bs = compare as bs := by
  induction as generalizing bs with
  | nil => cases bs <;> rfl
  | cons a as ih =>
    cases bs with
    | nil => rfl
    | cons b bs => rw [compareRanks, ih, List.compare_cons_cons]

end UrlRouting
