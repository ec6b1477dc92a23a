import UrlRouting.Bindings
import UrlRouting.Json.Basic

/-!
# Route values as JSON

Values are written as an object of texts under the names as they were spelled. They are read in
the order of the spellings, so that of two names that differ in case alone the one whose spelling
is greater counts.
-/

namespace UrlRouting

namespace Bindings

/-- Values as an object. -/
def toJson (vs : Bindings) : Json :=
  .object (vs.items.map fun b => (b.name, .text b.value))

/-- The members of an object of texts, in the order of their names; of members with one name the
last counts. -/
def textMembers? (sofar : TextMap String) : List (String × Json) → Option (TextMap String)
  | [] => some sofar
  | (name, .text value) :: rest => textMembers? (sofar.insert (name, value)) rest
  | _ => none

/-- Reads values from an object of texts. -/
def ofJson? : Json → Option Bindings
  | .object members => (textMembers? .empty members).map fun map => ofPairs map.items
  | _ => none

end Bindings

end UrlRouting
