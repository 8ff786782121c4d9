import SceneArchive.Error

/-!
# Summaries of fields

A summary of the values of one field: of numbers their order statistics, mean and standard
deviation, of text the number of distinct values and the first of them. Sums are taken over the
sorted values, so that the order of the list makes no difference.
-/

namespace SceneArchive

/-- The summary of numbers. Missing values and values that are no number are not counted. -/
structure NumericStats where
  count : Nat
  uniqueCount : Nat
  min : Option Float
  max : Option Float
  hasMissing : Bool
  mean : Option Float
  median : Option Float
  /-- The standard deviation of a sample; zero for fewer than two values. -/
  stdDev : Float
  deriving Repr

/-- The summary of texts. -/
structure TextStats where
  count : Nat
  uniqueCount : Nat
  sampleValues : List String
  deriving Repr

/-- The summary of a field. -/
inductive FieldStats where
  | numeric (stats : NumericStats)
  | text (stats : TextStats)
  /-- Fields whose type has no summary. -/
  | unsupported
  deriving Repr

namespace Stats

/-- How many texts a sample holds at most. -/
def sampleLimit : Nat := 10

/-- The mark behind a sample that leaves texts out. -/
def moreMarker : String := "..."

/-- What is shown for a field without a summary. -/
def unsupportedText : String := "statistics unavailable for this field type"

/-- The number that a value counts as, if it counts. -/
def number? (v : Value) : Option Float := v.toFloat?.filter (!Binary64.isNaN ·)

/-- The numbers of a list by the total order of doubles. -/
def sortedNumbers (values : List Value) : List Float :=
  (values.filterMap number?).mergeSort fun a b => decide (Binary64.order a ≤ Binary64.order b)

/-- The sorted numbers without those equal to the one before; the two zeros are equal. -/
def dedup : List Float → List Float
  | [] => []
  | [x] => [x]
  | x :: y :: rest =>
    if Binary64.scaled x = Binary64.scaled y then dedup (x :: rest) else x :: dedup (y :: rest)
termination_by xs => xs.length

/-- The sum from left to right. The sum of nothing is the negative zero, which changes no sum. -/
def sum (xs : List Float) : Float := xs.foldl (· + ·) (-0.0)

/-- A count as a double. -/
def ofCount (n : Nat) : Float := Binary64.ofInt n

/-- The mean of a nonempty list. -/
def mean? (xs : List Float) : Option Float :=
  if xs.isEmpty then none else some (sum xs / ofCount xs.length)

/-- The middle of a sorted list, or the mean of the two values around the middle. -/
def median? (xs : List Float) : Option Float :=
  let n := xs.length
  if n % 2 = 1 then xs[n / 2]?
  else do some (((← xs[n / 2 - 1]?) + (← xs[n / 2]?)) / ofCount 2)

/-- The standard deviation of a sample around its mean. -/
def deviation (xs : List Float) (mean : Float) : Float :=
  let squares := xs.map fun x => (x - mean) * (x - mean)
  (sum squares / ofCount (xs.length - 1)).sqrt

/-- The summary of numbers. -/
def numeric (values : List Value) : NumericStats :=
  let present := sortedNumbers values
  let mean := mean? present
  { count := present.length
    uniqueCount := (dedup present).length
    min := present.head?
    max := present.getLast?
    hasMissing := values.any fun v => (number? v).isNone
    mean
    median := median? present
    stdDev := match mean with
      | some mean => if 1 < present.length then deviation present mean else ofCount 0
      | none => ofCount 0 }

/-- A text of a list of values. -/
def text? : Value → Option String
  | .text s => some s
  | _ => none

/-- The distinct texts in increasing order. -/
def distinctTexts (texts : List String) : List String :=
  (NameMap.ofList (texts.map fun s => (s, ()))).map (·.1)

/-- The summary of texts. -/
def text (values : List Value) : TextStats :=
  let present := values.filterMap text?
  let distinct := distinctTexts present
  { count := present.length
    uniqueCount := distinct.length
    sampleValues :=
      distinct.take sampleLimit ++ if sampleLimit < distinct.length then [moreMarker] else [] }

/-- The summary of the values of a field of a type. -/
def summarize (type : ValueType) (values : List Value) : FieldStats :=
  match type with
  | .integer | .float => .numeric (numeric values)
  | .text => .text (text values)
  | .date => .unsupported

end Stats

/-- A number of a summary that may be absent. -/
def Stats.optionalNumber : Option Float → Json
  | some x => .float x
  | none => .null

/-- A summary as a tree, its members in declared order. -/
def FieldStats.toJson : FieldStats → Json
  | .numeric s => .object
      [ ("count", .int s.count),
        ("unique_count", .int s.uniqueCount),
        ("min", Stats.optionalNumber s.min),
        ("max", Stats.optionalNumber s.max),
        ("has_missing", .bool s.hasMissing),
        ("mean", Stats.optionalNumber s.mean),
        ("median", Stats.optionalNumber s.median),
        ("std_dev", .float s.stdDev) ]
  | .text s => .object
      [ ("count", .int s.count),
        ("unique_count", .int s.uniqueCount),
        ("sample_values", .array (s.sampleValues.map .string)) ]
  | .unsupported => .string Stats.unsupportedText

end SceneArchive
