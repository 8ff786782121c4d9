/-!
# Query operators

The six comparisons and the two membership tests of the query language.
-/

namespace SceneArchive

/-- A comparison of a field with one value. -/
inductive Comparison where
  | eq
  | ne
  | lt
  | le
  | gt
  | ge
  deriving DecidableEq, Repr

namespace Comparison

/-- Every comparison. -/
def all : List Comparison := [ne, le, ge, eq, lt, gt]

/-- A comparison as queries write it. -/
def symbol : Comparison → String
  | eq => "="
  | ne => "!="
  | lt => "<"
  | le => "<="
  | gt => ">"
  | ge => ">="

/-- A comparison as statements write it. -/
def statementText : Comparison → String
  | ne => "<>"
  | c => c.symbol

/-- Whether the order of two values satisfies the comparison. -/
def holds : Comparison → Ordering → Bool
  | eq, o => o == .eq
  | ne, o => o != .eq
  | lt, o => o == .lt
  | le, o => o != .gt
  | gt, o => o == .gt
  | ge, o => o != .lt

end Comparison

/-- An operator of a condition. -/
inductive Operator where
  | comparison (c : Comparison)
  /-- `in`, or `not in` when negated. -/
  | membership (negated : Bool)
  deriving DecidableEq, Repr

namespace Operator

/-- An operator as queries write it. -/
def symbol : Operator → String
  | comparison c => c.symbol
  | membership negated => if negated then "not in" else "in"

/-- An operator as statements write it. -/
def statementText : Operator → String
  | comparison c => c.statementText
  | membership negated => if negated then "NOT IN" else "IN"

/-- Whether the operator takes a list. -/
def isMembership : Operator → Bool
  | comparison _ => false
  | membership _ => true

/-- The operator that a text writes. -/
def ofSymbol? (s : String) : Option Operator :=
  (Comparison.all.map comparison ++ [membership false, membership true]).find? (·.symbol == s)

end Operator

end SceneArchive
