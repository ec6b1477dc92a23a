import UrlRouting.SortedBy
import UrlRouting.Text.Folding
import UrlRouting.Text.Quoted

/-!
# Route values

`Bindings` are the values of a route: texts under names that are compared without regard to
case. Each name keeps the spelling that it was last bound under, and the names come in the
order of their folded forms.
-/

namespace UrlRouting

open Text

/-- A name with its value. -/
structure Binding where
  /-- The name as it was spelled. -/
  name : String
  /-- The value bound to it. -/
  value : String
deriving Repr, DecidableEq

namespace Binding

/-- The form under which names are compared. -/
def key (b : Binding) : String := fold b.name

end Binding

/-- Values under names that are compared without regard to case. -/
abbrev Bindings := SortedBy Binding.key

namespace Bindings

/-- The value of a name. -/
def get? (vs : Bindings) (name : String) : Option String := (vs.find? (fold name)).map Binding.value

/-- The value of a name, unless it is empty. -/
def nonEmpty? (vs : Bindings) (name : String) : Option String :=
  (vs.get? name).filter fun v => !v.isEmpty

/-- Whether a name is bound. -/
def has (vs : Bindings) (name : String) : Bool := vs.contains (fold name)

/-- Binds a name, in place of any earlier value and spelling. -/
def bind (vs : Bindings) (name value : String) : Bindings := vs.insert ⟨name, value⟩

/-- Takes away the value of a name. -/
def unbind (vs : Bindings) (name : String) : Bindings := vs.erase (fold name)

/-- The values of both; where both bind a name, `other` counts. -/
def merge (vs other : Bindings) : Bindings := vs.insertAll other.items

/-- The values of both; where both bind a name, `vs` counts. -/
def withDefaults (vs defaults : Bindings) : Bindings :=
  defaults.items.foldl
    (fun all b => if all.has b.name then all else all.bind b.name b.value) vs

/-- Names and values in order. -/
def toPairs (vs : Bindings) : List (String × String) := vs.items.map fun b => (b.name, b.value)

/-- Binds the names of some pairs, one after another. -/
def ofPairs (pairs : List (String × String)) : Bindings :=
  .ofList (pairs.map fun (name, value) => ⟨name, value⟩)

/-- Whether two sets of values bind the same names to the same values; spelling does not
count. -/
def agree (vs other : Bindings) : Bool :=
  vs.items.map (fun b => (b.key, b.value)) == other.items.map (fun b => (b.key, b.value))

/-- The values as a diagnostic listing. -/
def listing (vs : Bindings) : String :=
  let quote := EscapeStyle.listing.quote
  "\x7b" ++ ", ".intercalate (vs.items.map fun b => quote b.name ++ ": " ++ quote b.value)
    ++ "\x7d"

end Bindings

end UrlRouting
