import SceneArchive.Error
import SceneArchive.Text.Quoted

/-!
# Coercion

Raw text and JSON scalars become typed values here and nowhere else. A decimal comma counts as a
decimal point; integers may be written as decimals without a fractional part.
-/

namespace SceneArchive.Coercion

/-- The text without blanks around it, its first comma replaced by a point. -/
def normalizeDecimal (s : List Char) : List Char :=
  match (Text.trim s).span (· != ',') with
  | (before, ',' :: after) => before ++ '.' :: after
  | (all, _) => all

/-- A finite number written with a decimal point or comma. -/
def readFloat? (s : List Char) : Option Float :=
  (Decimal.readFloat? (normalizeDecimal s)).filter Binary64.isFinite

/-- The integer that a double is, if it is one whose absolute value is below `2 ^ 63`. -/
def integral? (x : Float) : Option Int :=
  (Binary64.integer? x).filter fun n => n.natAbs < twoTo 63

/-- An integer, written as such or as a decimal without a fractional part. -/
def readInteger? (s : List Char) : Option Int :=
  let trimmed := Text.trim s
  match (Decimal.readInt? trimmed).filter fitsInt64 with
  | some n => some n
  | none => (readFloat? trimmed).bind integral?

/-! ## Text of queries and tables

One pair of quotes around the text is not part of it. Text that is refused is shown as given,
between quotes. -/

/-- The text of a value without the blanks and the quotes around it. -/
def bareText (raw : String) : List Char := Text.unquote (Text.trim raw.toList)

/-- The value that was read, or a refusal of the text. -/
def orRefuse {α : Type} (field : String) (fault : String → ValueFault) (raw : String) :
    Option α → Except IndexError α
  | some a => .ok a
  | none => .error (.value field (fault ("'" ++ raw ++ "'")))

/-- Text as an integer. -/
def integerOfText (field raw : String) : Except IndexError Int :=
  orRefuse field .notInteger raw (readInteger? (bareText raw))

/-- Text as a finite number. -/
def floatOfText (field raw : String) : Except IndexError Float :=
  orRefuse field .notNumber raw (readFloat? (bareText raw))

/-- Text as a date. -/
def dateOfText (field raw : String) : Except IndexError Date :=
  orRefuse field .notDate raw (Date.readChars? (Text.trim (bareText raw)))

/-- Text as a value of a type. -/
def ofText (field : String) (type : ValueType) (raw : String) : Except IndexError Value :=
  match type with
  | .text => .ok (.text (String.ofList (bareText raw)))
  | .integer => (integerOfText field raw).map .integer
  | .float => (floatOfText field raw).map .float
  | .date => (dateOfText field raw).map .date

/-! ## Scalars of trees -/

/-- The integer that a number of a tree is. -/
def integerOfNumber? : Number → Option Int
  | .int n => if fitsInt64 n then some n else integral? (Binary64.ofInt n)
  | .float x => integral? x

/-- The double nearest to a number of a tree. -/
def floatOfNumber : Number → Float
  | .int n => Binary64.ofInt n
  | .float x => x

/-- The refusal of a tree that is no scalar of a type. -/
def unsupported {α : Type} (field : String) (type : ValueType) (raw : Json) :
    Except IndexError α :=
  .error (.value field (.unsupported type raw.compact))

/-- A scalar as text. Numbers and truth values count as they are written. -/
def textOfScalar (field : String) : Json → Except IndexError String
  | .string s => .ok s
  | .number n => .ok n.text
  | .bool b => .ok (Json.compact (.bool b))
  | other => unsupported field .text other

/-- A scalar as an integer. -/
def integerOfScalar (field : String) : Json → Except IndexError Int
  | .number n =>
    match integerOfNumber? n with
    | some i => .ok i
    | none => .error (.value field (.notInteger n.text))
  | .string s => integerOfText field s
  | other => unsupported field .integer other

/-- A scalar as a number. -/
def floatOfScalar (field : String) : Json → Except IndexError Float
  | .number n => .ok (floatOfNumber n)
  | .string s => floatOfText field s
  | other => unsupported field .float other

/-- A scalar as a date. The digits of a number are read as text. -/
def dateOfScalar (field : String) : Json → Except IndexError Date
  | .number n => dateOfText field n.text
  | .string s => dateOfText field s
  | other => unsupported field .date other

/-! ## Columns of records -/

/-- A column that must have a value. -/
def required {α : Type} (read : String → Json → Except IndexError α) (field : String)
    (raw : Option Json) : Except IndexError α :=
  match raw with
  | none | some .null => .error (.value field .missing)
  | some raw => read field raw

/-- Whether a column is missing where it may be: absent, null, or blank text where `blank` says
so. -/
def isMissing (blank : Bool) : Option Json → Bool
  | none | some .null => true
  | some (.string s) => blank && Text.allBlank s
  | some _ => false

/-- A date that may be missing; blank text is missing too. -/
def optionalDate (field : String) (raw : Option Json) : Except IndexError (Option Date) :=
  if isMissing true raw then .ok none else (required dateOfScalar field raw).map some

/-- A scalar as a value of a type. -/
def ofScalar (type : ValueType) (field : String) (raw : Json) : Except IndexError Value :=
  match type with
  | .text => (textOfScalar field raw).map .text
  | .integer => (integerOfScalar field raw).map .integer
  | .float => (floatOfScalar field raw).map .float
  | .date => (dateOfScalar field raw).map .date

/-- A column as a value of a type. A nullable column that is missing is null. -/
def ofJson (field : String) (type : ValueType) (raw : Option Json) (nullable : Bool) :
    Except IndexError Value :=
  if nullable && isMissing (type == .date) raw then .ok .null
  else required (ofScalar type) field raw

end SceneArchive.Coercion
