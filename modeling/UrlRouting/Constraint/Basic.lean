import UrlRouting.Bindings
import UrlRouting.Regex.Search
import UrlRouting.Request
import UrlRouting.Text.Numeral

/-!
# Constraints

A constraint restricts the value that a route gives to a name. Those of this library are listed,
and any other condition is a `Constraint.custom` one. `Constraint.admits` says whether a constraint
is content; `firstRejection?` checks the constraints of a route in the order of their names up to
the first one that is not.
-/

namespace UrlRouting

open Text

/-- Where a constraint is applied. -/
structure Constraint.Site where
  /-- The request that is matched or for which a link is written. -/
  request : Request
  /-- The values of the route. -/
  values : Bindings
  /-- Which way the router is used. -/
  direction : Direction

/-- A condition on the value of a name. -/
inductive Constraint where
  /-- A whole number of 32 bits. -/
  | int
  /-- A whole number of 64 bits. -/
  | long
  /-- One of the two truth values, in any case. -/
  | bool
  /-- One or more ASCII letters. -/
  | alpha
  /-- A value that is not empty. -/
  | required
  /-- At least so many characters. -/
  | minLength (n : Nat)
  /-- At most so many characters. -/
  | maxLength (n : Nat)
  /-- So many characters, bounds included. -/
  | length (low high : Nat)
  /-- A whole number of 64 bits that is not smaller. -/
  | atLeast (n : Int)
  /-- A whole number of 64 bits that is not greater. -/
  | atMost (n : Int)
  /-- A whole number of 64 bits between two others, bounds included. -/
  | between (low high : Int)
  /-- A value in which a search pattern occurs. -/
  | regex (r : Regex)
  /-- Everything that some constraints ask for. -/
  | all (cs : List Constraint)
  /-- What a constraint asks for, unless there is no value or an empty one. -/
  | optional (c : Constraint)
  /-- A request, when one is matched, with one of some methods. -/
  | method (allowed : List String)
  /-- A condition from outside of this library. It is asked under the name as it stands in the
  constraints of the entry. -/
  | custom (name : String) (holds : Constraint.Site → String → Bool)

namespace Constraint

/-- The name of a constraint in logs and metrics. -/
def name : Constraint → String
  | int => "int"
  | long => "long"
  | bool => "bool"
  | alpha => "alpha"
  | required => "required"
  | minLength _ => "minlength"
  | maxLength _ => "maxlength"
  | length _ _ => "length"
  | atLeast _ => "min"
  | atMost _ => "max"
  | between _ _ => "range"
  | regex _ => "regex"
  | all _ => "composite"
  | optional c => c.name
  | method _ => "http_method"
  | custom name _ => name

/-- Whether a text is one of the two truth values. -/
def isTruthValue (s : String) : Bool := sameAscii s "true" || sameAscii s "false"

mutual

/-- Whether a constraint is content with the value of a name. A missing value contents only
constraints that do not ask for one. -/
def admits (site : Site) (key : String) : Constraint → Bool
  | int => (site.values.get? key).any fun v => (readInt32? v).isSome
  | long => (site.values.get? key).any fun v => (readInt64? v).isSome
  | bool => (site.values.get? key).any isTruthValue
  | alpha => (site.values.get? key).any fun v => !v.isEmpty && v.toList.all Char.isAlpha
  | required => (site.values.get? key).any fun v => !v.isEmpty
  | minLength n => (site.values.get? key).any fun v => n ≤ v.length
  | maxLength n => (site.values.get? key).any fun v => v.length ≤ n
  | length low high => (site.values.get? key).any fun v => low ≤ v.length && v.length ≤ high
  | atLeast low => (site.values.get? key).any fun v => (readInt64? v).any (low ≤ ·)
  | atMost high => (site.values.get? key).any fun v => (readInt64? v).any (· ≤ high)
  | between low high =>
    (site.values.get? key).any fun v => (readInt64? v).any fun n => low ≤ n && n ≤ high
  | regex r => (site.values.get? key).any r.occursIn
  | all cs => admitsAll site key cs
  | optional c =>
    match site.values.nonEmpty? key with
    | some _ => admits site key c
    | none => true
  | method allowed =>
    match site.direction with
    | .incoming => allowed.contains site.request.method
    | .generation => true
  | custom _ holds => holds site key

/-- Whether all of some constraints are content. -/
def admitsAll (site : Site) (key : String) : List Constraint → Bool
  | [] => true
  | c :: cs => admits site key c && admitsAll site key cs

end

end Constraint

/-- The constraints of a route under folded names. -/
abbrev ConstraintMap := TextMap Constraint

/-- A value that a constraint is not content with. -/
structure Rejection where
  /-- The folded name. -/
  key : String
  /-- The name of the constraint. -/
  constraint : String
  /-- The value, empty where there is none. -/
  value : String
  /-- Which way the router was used. -/
  direction : Direction
deriving Repr, DecidableEq

/-- The first constraint, in the order of the names, that is not content. -/
def firstRejection? (constraints : ConstraintMap) (site : Constraint.Site) : Option Rejection :=
  (constraints.items.find? fun (key, c) => !c.admits site key).map fun (key, c) =>
    { key, constraint := c.name, value := (site.values.get? key).getD ""
      direction := site.direction }

end UrlRouting
