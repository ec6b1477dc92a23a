import UrlRouting.Decimal.Digits
import UrlRouting.Telemetry.Metrics
import UrlRouting.Text.Numeral

/-!
# Metrics as text

The text in which a registry is read by a monitoring system: for each metric a line of help, a
line that tells its type and one line for each number, and a line that ends the text.
-/

namespace UrlRouting

open Text

/-! ### Numbers -/

/-- A number in decimal digits with at least one digit after the point, without an exponent
where the point stands less than six places left of the first digit or at most twenty-one
places right of it. -/
def Decimal.render (d : Decimal) : String :=
  let ds := Nat.toDigits 10 d.digits
  let point : Int := ds.length + d.exponent
  let zeros (n : Int) : List Char := List.replicate n.toNat '0'
  String.ofList <|
    if 0 ≤ d.exponent && point ≤ 21 then ds ++ zeros d.exponent ++ ['.', '0']
    else if 0 < point && point ≤ 21 then ds.take point.toNat ++ ['.'] ++ ds.drop point.toNat
    else if -6 < point && point ≤ 0 then ['0', '.'] ++ zeros (-point) ++ ds
    else
      ds.take 1 ++ (if ds.length = 1 then [] else ['.'] ++ ds.drop 1) ++ ['e']
        ++ (decimal (point - 1)).toList

/-- A floating-point number as a decimal that reads back. -/
def floatText (x : Float) : String :=
  if x.isNaN then "NaN"
  else if x.isInf then (if x < 0 then "-inf" else "inf")
  else
    let bits := x.toBits
    (if bits.toNat < 0x8000000000000000 then "" else "-")
      ++ (if x == 0 then "0.0" else (Decimal.ofBinary (.ofBits bits)).render)

/-! ### Lines -/

/-- A line with a number. -/
def sampleLine (name labels value : String) : String :=
  name ++ (if labels.isEmpty then "" else "\x7b" ++ labels ++ "\x7d") ++ " " ++ value

/-- The lines that stand above a metric. -/
def headLines (name help type : String) : List String :=
  ["# HELP " ++ name ++ " " ++ help ++ ".", "# TYPE " ++ name ++ " " ++ type]

/-- The lines of counters. -/
def counterLines (name : String) (f : Family Nat) : List String :=
  f.series.map fun (labels, n) => sampleLine (name ++ "_total") labels.render (decimal n)

/-- The labels of a bucket: its bound and then those of its series. -/
def bucketLabels (bound labels : String) : String :=
  "le=\"" ++ bound ++ "\"" ++ (if labels.isEmpty then "" else "," ++ labels)

/-- The lines of a distribution: its sum, its count and its buckets. -/
def histogramLines (name labels : String) (h : Histogram) : List String :=
  [sampleLine (name ++ "_sum") labels (floatText h.sum),
   sampleLine (name ++ "_count") labels (decimal h.count)]
    ++ List.zipWith
      (fun bound (n : Nat) =>
        sampleLine (name ++ "_bucket") (bucketLabels bound labels) (decimal n))
      (h.bounds.map floatText ++ ["+Inf"]) h.cumulative

namespace Registry

/-- The text in parts that end in a line feed each. A label that holds line feeds makes several
lines of its part. -/
def expositionParts (r : Registry) : List String :=
  headLines "sentier_route_requests" "Total number of requests routed" "counter"
    ++ counterLines "sentier_route_requests" r.requests
    ++ headLines "sentier_route_duration_seconds"
      "Time spent matching a request against the trees" "histogram"
    ++ r.durations.series.flatMap (fun (labels, h) =>
      histogramLines "sentier_route_duration_seconds" labels.render h)
    ++ headLines "sentier_route_candidates" "Number of matching entries tried per request"
      "histogram"
    ++ histogramLines "sentier_route_candidates" "" r.candidates
    ++ headLines "sentier_constraint_rejections"
      "Total number of route values rejected by a constraint" "counter"
    ++ counterLines "sentier_constraint_rejections" r.rejections
    ++ headLines "sentier_link_generation" "Total number of link generation attempts" "counter"
    ++ counterLines "sentier_link_generation" r.links
    ++ headLines "sentier_routers_built" "Total number of tree routers built" "counter"
    ++ [sampleLine "sentier_routers_built_total" "" (decimal r.routersBuilt)]
    ++ headLines "sentier_route_entries"
      "Number of matching entries in the most recently built router" "gauge"
    ++ [sampleLine "sentier_route_entries" "" (decimal r.routeEntries)]
    ++ ["# EOF"]

/-- The text. -/
def exposition (r : Registry) : String := String.join (r.expositionParts.map (· ++ "\n"))

/-- Whether a line depends on how long something took. -/
def isTiming (line : String) : Bool :=
  ["sentier_route_duration_seconds_bucket", "sentier_route_duration_seconds_sum"].any fun name =>
    name.toList.isPrefixOf line.toList

end Registry

end UrlRouting
