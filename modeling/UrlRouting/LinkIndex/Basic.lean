import UrlRouting.LinkIndex.BitSet
import UrlRouting.Route.Entry

/-!
# Finding link entries by values

A `LinkIndex` finds the entries whose requirements the given values meet. All names that some
requirement mentions have a number; entries that need the same names given and the same names not
given form a group, so that one comparison of bit sets decides about a whole group before any
value is looked at. `LinkIndex.candidates` gives the entries in the order in which they are tried.
-/

namespace UrlRouting

open Text

/-- How a name is given. -/
inductive Supply where
  /-- With the values that a link is asked for with. -/
  | explicit (value : String)
  /-- With the values of the current request. -/
  | ambient (value : String)
  /-- Not at all. -/
  | missing
deriving Repr, DecidableEq

namespace Supply

/-- How a name is given. Asking with the empty text takes away the current value. -/
def find (ambientValues values : Bindings) (name : String) : Supply :=
  match values.get? name with
  | some value => if value.isEmpty then missing else explicit value
  | none =>
    match ambientValues.nonEmpty? name with
    | some value => ambient value
    | none => missing

/-- Whether a name is given. -/
def isGiven : Supply → Bool
  | missing => false
  | _ => true

/-- Whether a name is given with the values asked with. -/
def isExplicit : Supply → Bool
  | explicit _ => true
  | _ => false

/-- Whether a name is given by the current request. -/
def isAmbient : Supply → Bool
  | ambient _ => true
  | _ => false

end Supply

/-- What an entry asks of the value of a numbered name. -/
structure Demand where
  /-- The number of the name. -/
  key : Nat
  /-- The text that the value has to be; any value will do where there is none. -/
  wanted? : Option String
  /-- Whether the entry has a default of its own that meets the demand. -/
  metByDefault : Bool
deriving Repr, DecidableEq

/-- Whether a demand is met by the way its name is given. -/
def Demand.isMetBy (d : Demand) : Supply → Bool
  | .explicit value => d.wanted?.all (sameText value)
  | .ambient value => d.wanted?.all (sameText value)
  | .missing => d.metByDefault

/-- An entry as the index keeps it. -/
structure IndexedEntry where
  /-- The entry. -/
  entry : Outbound
  /-- When it was registered. -/
  position : Nat
  /-- What it asks of values, in the order of its requirements. -/
  demands : List Demand

/-- Entries that need the same names given and the same names not given. -/
structure LinkGroup where
  /-- The names that have to be given. -/
  required : BitSet
  /-- The names that must not be asked with. -/
  absent : BitSet
  /-- The entries in the order in which they were registered. -/
  entries : List IndexedEntry

/-- The entries of a router for links. -/
structure LinkIndex where
  /-- The folded names; the number of a name is its place. -/
  keys : List String
  /-- The groups in the order of their first entries. -/
  groups : List LinkGroup

/-- An entry whose requirements are met. -/
structure Candidate where
  /-- The entry. -/
  entry : Outbound
  /-- When it was registered. -/
  position : Nat
  /-- Whether a value of the current request was needed. -/
  isFallback : Bool

/-! ### Making an index -/

/-- The folded names that requirements mention, each once, in the order in which they first
occur. -/
def vocabulary (es : List Outbound) : List String :=
  (es.flatMap fun e => e.requirements.map fun (name, _) => fold name).foldl
    (fun keys key => if keys.contains key then keys else keys ++ [key]) []

/-- What a requirement asks of a value, unless it asks for none. -/
def demand? (keys : List String) (e : Outbound) : String × Requirement → Option Demand
  | (_, .absent) => none
  | (name, .any) =>
    some
      { key := keys.idxOf (fold name), wanted? := none
        metByDefault := (e.pattern.defaults.nonEmpty? name).isSome }
  | (name, .exact text) =>
    some
      { key := keys.idxOf (fold name), wanted? := some text
        metByDefault := (e.pattern.defaults.nonEmpty? name).any fun given => sameText given text }

namespace IndexedEntry

/-- An entry as it is kept. -/
def ofOutbound (keys : List String) (e : Outbound) (position : Nat) : IndexedEntry where
  entry := e
  position := position
  demands := e.requirements.filterMap (demand? keys e)

/-- The names that have to be given: those that no default of the entry provides for. -/
def required (keys : List String) (e : IndexedEntry) : BitSet :=
  .ofList keys.length ((e.demands.filter (!·.metByDefault)).map (·.key))

/-- The names that must not be asked with. -/
def absent (keys : List String) (e : IndexedEntry) : BitSet :=
  .ofList keys.length
    ((e.entry.requirements.filter fun (_, r) => r == .absent).map fun (name, _) =>
      keys.idxOf (fold name))

end IndexedEntry

/-- Adds an entry to the group of its names, and makes one at the end if there is none. -/
def addToGroups (required absent : BitSet) (e : IndexedEntry) : List LinkGroup → List LinkGroup
  | [] => [{ required, absent, entries := [e] }]
  | g :: gs =>
    if g.required = required ∧ g.absent = absent then
      { g with entries := g.entries ++ [e] } :: gs
    else g :: addToGroups required absent e gs

namespace LinkIndex

/-- The index of some entries. -/
def ofEntries (es : List Outbound) : LinkIndex :=
  let keys := vocabulary es
  { keys
    groups := es.zipIdx.foldl
      (fun groups (e, position) =>
        let indexed := IndexedEntry.ofOutbound keys e position
        addToGroups (indexed.required keys) (indexed.absent keys) indexed groups) [] }

/-! ### Asking an index -/

/-- The numbers of the names that are given in a way. -/
def numbersWhere (p : Supply → Bool) (supplies : List Supply) : BitSet :=
  .ofList supplies.length
    ((supplies.zipIdx.filter fun (s, _) => p s).map fun (_, i) => i)

/-- Whether an entry's demands are met, and if so, whether a value of the current request was
needed. -/
def meets? (supplies : List Supply) (e : IndexedEntry) : Option Bool :=
  let supply (d : Demand) : Supply := supplies[d.key]?.getD .missing
  if e.demands.all fun d => d.isMetBy (supply d) then
    some (e.demands.any fun d => (supply d).isAmbient)
  else none

/-- Whether a group can be met at all. -/
def LinkGroup.isOpen (g : LinkGroup) (supplies : List Supply) : Bool :=
  g.required.isSubset (numbersWhere Supply.isGiven supplies)
    && g.absent.isDisjoint (numbersWhere Supply.isExplicit supplies)

/-- Compares two found entries: more demands come first, then entries that need no value of the
current request, then greater ranks, then texts in order, then earlier registration. -/
def compareFound (a b : IndexedEntry × Bool) : Ordering :=
  (compare b.1.demands.length a.1.demands.length).then <|
    (compare a.2 b.2).then <|
      (compareRanks b.1.entry.pattern.template.linkRank
        a.1.entry.pattern.template.linkRank).then <|
        (compare (fold a.1.entry.templateText) (fold b.1.entry.templateText)).then
          (compare a.1.position b.1.position)

/-- The entries whose requirements are met, in the order in which they are tried. -/
def candidates (index : LinkIndex) (ambientValues values : Bindings) : List Candidate :=
  let supplies := index.keys.map (Supply.find ambientValues values)
  let found := (index.groups.filter (LinkGroup.isOpen · supplies)).flatMap fun g =>
    g.entries.filterMap fun e => (meets? supplies e).map fun isFallback => (e, isFallback)
  (found.mergeSort fun a b => (compareFound a b).isLE).map fun (e, isFallback) =>
    { entry := e.entry, position := e.position, isFallback }

end LinkIndex

end UrlRouting
