/-!
# Metrics

A `Registry` counts what routers do. It takes one `Measurement` after another, so that what it
shows is a function of the list of measurements.
-/

namespace UrlRouting

/-- Something that is counted. -/
inductive Measurement where
  /-- A request was routed, with this outcome and after trying so many entries. -/
  | routed (outcome : String) (candidates : Nat)
  /-- A constraint was not content with a value. -/
  | rejected (constraint direction : String)
  /-- A link was asked for, by name or by values, and written or not. -/
  | linked (named generated : Bool)
  /-- A router was built from so many entries for requests. -/
  | built (entries : Nat)
deriving Repr, DecidableEq

/-- A distribution of observed values. -/
structure Histogram where
  /-- The upper bounds of the buckets, ascending. -/
  bounds : List Float
  /-- How many values fell into each bucket; the last one has no bound. -/
  counts : List Nat
  /-- The sum of the values. -/
  sum : Float
  /-- How many values there are. -/
  count : Nat

namespace Histogram

/-- A distribution without values. -/
def withBounds (bounds : List Float) : Histogram where
  bounds := bounds
  counts := List.replicate (bounds.length + 1) 0
  sum := 0
  count := 0

/-- The first bucket whose bound is not smaller than a value. -/
def bucketOf (h : Histogram) (value : Float) : Nat :=
  (h.bounds.takeWhile fun bound => !(value ≤ bound)).length

/-- Adds a value. -/
def observe (h : Histogram) (value : Float) : Histogram where
  bounds := h.bounds
  counts := h.counts.modify (h.bucketOf value) (· + 1)
  sum := h.sum + value
  count := h.count + 1

/-- How many values are not greater than each bound, and last how many there are in all. -/
def cumulative (h : Histogram) : List Nat :=
  (h.counts.foldl (fun (sofar, total) n => (sofar ++ [total + n], total + n)) ([], 0)).1

end Histogram

/-- Names and values that tell the series of a metric apart. -/
abbrev Labels := List (String × String)

namespace Labels

/-- Labels as they are written between braces. Values are written as they are, so that different
labels may look alike. -/
def render (ls : Labels) : String :=
  ",".intercalate (ls.map fun (name, value) => name ++ "=\"" ++ value ++ "\"")

end Labels

/-- The series of a metric, in the order in which they began. -/
structure Family (α : Type) where
  /-- The series and their labels. -/
  series : List (Labels × α)

namespace Family

variable {α : Type}

/-- No series. -/
def empty : Family α := ⟨[]⟩

/-- Changes the series of some labels, which begins as `initial`. -/
def updateSeries (labels : Labels) (initial : α) (change : α → α) :
    List (Labels × α) → List (Labels × α)
  | [] => [(labels, change initial)]
  | (ls, a) :: rest =>
    if ls = labels then (ls, change a) :: rest
    else (ls, a) :: updateSeries labels initial change rest

/-- Changes the series of some labels, which begins as `initial`. -/
def update (f : Family α) (labels : Labels) (initial : α) (change : α → α) : Family α :=
  ⟨updateSeries labels initial change f.series⟩

/-- Adds one to the series of some labels. -/
def increment (f : Family Nat) (labels : Labels) : Family Nat := f.update labels 0 (· + 1)

end Family

/-- The bounds of the buckets for durations, in seconds. -/
def durationBounds : List Float :=
  [0.000001, 0.000005, 0.00001, 0.00005, 0.0001, 0.0005, 0.001, 0.005, 0.01]

/-- The bounds of the buckets for numbers of entries tried. -/
def candidateBounds : List Float := [0, 1, 2, 4, 8, 16, 64]

/-- A number as it is kept in 64 bits with a sign: from half of their range on it is negative. -/
def signed64 (n : Nat) : Int := (n : Int).bmod 0x10000000000000000

/-- All that is counted. -/
structure Registry where
  /-- Requests routed, by outcome. -/
  requests : Family Nat
  /-- How long they took, by outcome. -/
  durations : Family Histogram
  /-- How many entries were tried for each. -/
  candidates : Histogram
  /-- Values rejected, by constraint and direction. -/
  rejections : Family Nat
  /-- Links asked for, by way of looking up and outcome. -/
  links : Family Nat
  /-- Routers built. -/
  routersBuilt : Nat
  /-- The entries for requests of the router built last. -/
  routeEntries : Int

namespace Registry

/-- A registry that has counted nothing. -/
def empty : Registry where
  requests := .empty
  durations := .empty
  candidates := .withBounds candidateBounds
  rejections := .empty
  links := .empty
  routersBuilt := 0
  routeEntries := 0

/-- The labels of an outcome. -/
def outcomeLabels (outcome : String) : Labels := [("outcome", outcome)]

/-- The labels of a rejection. -/
def rejectionLabels (constraint direction : String) : Labels :=
  [("constraint", constraint), ("direction", direction)]

/-- The labels of a link. -/
def linkLabels (named generated : Bool) : Labels :=
  [("lookup", if named then "named" else "values"),
   ("outcome", if generated then "generated" else "no_match")]

/-- Takes a measurement. A request that was routed took `seconds`. -/
def record (r : Registry) (seconds : Float) : Measurement → Registry
  | .routed outcome candidates =>
    { r with
      requests := r.requests.increment (outcomeLabels outcome)
      durations := r.durations.update (outcomeLabels outcome) (.withBounds durationBounds)
        (·.observe seconds)
      candidates := r.candidates.observe (Float.ofNat candidates) }
  | .rejected constraint direction =>
    { r with rejections := r.rejections.increment (rejectionLabels constraint direction) }
  | .linked named generated =>
    { r with links := r.links.increment (linkLabels named generated) }
  | .built entries =>
    { r with routersBuilt := r.routersBuilt + 1, routeEntries := signed64 entries }

/-- Takes measurements one after another, each request taking `seconds`. -/
def recordAll (r : Registry) (seconds : Float) (ms : List Measurement) : Registry :=
  ms.foldl (fun r m => r.record seconds m) r

end Registry

end UrlRouting
