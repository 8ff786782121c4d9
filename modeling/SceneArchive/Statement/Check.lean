import SceneArchive.Error
import SceneArchive.Statement.Select

/-!
# Checking statements

Not every operand goes with every operator: a test of membership needs a list, and a comparison a
single value, in brackets or not. A statement is checked clause by clause in written order for its
form, and for the sense of its comparisons once its form is in order. The number of its marks and
the depth of its conjunction are limited.
-/

namespace SceneArchive.Statement

/-- The mark at the end of a clause that breaks its form, if one does. -/
def Clause.wrongMark? : Clause → Option String
  | tests _ _ (.membership _) (.scalar _) => some "?"
  | tests _ _ (.comparison _) (.list []) => some ")"
  | _ => none

/-- Whether a clause compares one value with several. -/
def Clause.comparesSeveral : Clause → Bool
  | tests _ _ (.comparison _) (.list (_ :: _ :: _)) => true
  | _ => false

/-- How deeply a clause is nested. -/
def Clause.depth : Clause → Nat
  | never => 1
  | tests _ _ (.membership true) _ => 4
  | _ => 3

/-- How deeply a conjunction may be nested. -/
def greatestDepth : Nat := 1000

/-- The depth of a conjunction with one more clause. Nothing is left of a conjunction with a clause
that no row satisfies. -/
def conjoinedDepth (isNever : Bool) (depth : Nat) (clause : Clause) : Nat :=
  if isNever then 1 else max depth clause.depth + 1

/-- Whether a clause is the one that no row satisfies. -/
def Clause.isNever : Clause → Bool
  | never => true
  | _ => false

/-- How many marks a statement may have. -/
def mostMarks : Nat := 32766

/-- Where a mark of a clause stands in it. -/
def Clause.markOffset (i : Nat) : Clause → Nat
  | tests column _ operator operand =>
    (column.text ++ " " ++ operator.statementText ++ " ").utf8ByteSize +
      match operand with
      | .scalar _ => 0
      | .list _ => 1 + 3 * i
  | _ => 0

/-- What has been seen of the clauses of a statement. -/
structure Checked where
  /-- Whether one of them is the clause that no row satisfies. -/
  hasNever : Bool := false
  /-- How deeply their conjunction is nested. -/
  depth : Nat := 0
  /-- How many marks they have. -/
  marks : Nat := 0
  deriving Repr

/-- What has been seen after one more clause. -/
def Checked.after (seen : Checked) (clause : Clause) : Checked :=
  let hasNever := seen.hasNever || clause.isNever
  { hasNever
    depth :=
      if seen.depth = 0 then clause.depth else conjoinedDepth hasNever seen.depth clause
    marks := seen.marks + clause.parameters.length }

/-- Checks the form of clauses behind others; the first of them begins at `offset` in the
statement. -/
def checkForm (statement : String) (seen : Checked) (offset : Nat) :
    List Clause → Except StorageFault Unit
  | [] => .ok ()
  | clause :: rest =>
    let refused (fault : StatementFault) (inside : Nat) :=
      .error (.refused fault statement (offset + inside))
    match clause.wrongMark? with
    | some mark => refused (.syntaxNear mark) (clause.text.utf8ByteSize - 1)
    | none =>
      let after := seen.after clause
      if mostMarks < after.marks then
        refused .tooManyMarks (clause.markOffset (mostMarks - seen.marks))
      else if greatestDepth < after.depth then .error .tooDeep
      else checkForm statement after (offset + clause.text.utf8ByteSize + 5) rest

/-- Where the first clause that compares one value with several begins, if there is one. -/
def severalOffset? (offset : Nat) : List Clause → Option Nat
  | [] => none
  | clause :: rest =>
    if clause.comparesSeveral then some offset
    else severalOffset? (offset + clause.text.utf8ByteSize + 5) rest

/-- Checks a statement. -/
def Select.check (s : Select) : Except StorageFault Unit := do
  let offset := s.head.utf8ByteSize + 7
  checkForm s.text {} offset s.clauses
  if s.clauses.any (·.isNever) then return ()
  match severalOffset? offset s.clauses with
  | some offset => throw (.refused .severalValues s.text offset)
  | none => return ()

end SceneArchive.Statement
