import SceneArchive.Query.Condition
import SceneArchive.Query.Segments
import SceneArchive.Query.LiteralList

/-!
# Reading queries

A query is a conjunction of conditions joined by `&`. A condition is a field, an operator and an
operand; operands are kept as text, and only the brackets of a list are looked into.
-/

namespace SceneArchive.Query

/-- The first character of an identifier. -/
def isIdentifierStart (c : Char) : Bool := c.isAlpha

/-- The other characters of an identifier. -/
def isIdentifierChar (c : Char) : Bool := c.isAlphanum || c == '_'

/-- The characters that symbolic operators are made of. -/
def isOperatorChar (c : Char) : Bool := c == '=' || c == '!' || c == '<' || c == '>'

/-- The longest identifier that a text begins with, and the rest. -/
def identifier? : List Char → Option (String × List Char)
  | [] => none
  | c :: rest =>
    if isIdentifierStart c then
      let (name, after) := rest.span isIdentifierChar
      some (String.ofList (c :: name), after)
    else none

/-- A field with or without the name of its kind, and the rest. -/
def fieldPath? (s : List Char) : Option (FieldPath × List Char) := do
  let (first, rest) ← identifier? s
  match rest with
  | '.' :: rest =>
    let (name, rest) ← identifier? rest
    return (⟨some first, name⟩, rest)
  | _ => return (⟨none, first⟩, rest)

/-- What follows a word that a text begins with, unless the word goes on. -/
def afterWord? (word : List Char) (s : List Char) : Option (List Char) :=
  if word.isPrefixOf s then
    let rest := s.drop word.length
    if rest.head?.any isIdentifierChar then none else some rest
  else none

/-- The membership test or fault of a text that begins with no symbol. -/
def wordOperator (s : List Char) : Except QueryFault (Operator × List Char) :=
  match afterWord? "not".toList s with
  | some afterNot =>
    let rest := Text.trimStart afterNot
    match if rest.length < afterNot.length then afterWord? "in".toList rest else none with
    | some afterIn => .ok (.membership true, afterIn)
    | none => .error .expectedIn
  | none =>
    match afterWord? "in".toList s with
    | some afterIn => .ok (.membership false, afterIn)
    | none => .error .expectedOperator

/-- The operator that a text begins with, and the rest. Symbols are read as long as they go. -/
def operator (s : List Char) : Except QueryFault (Operator × List Char) :=
  let (run, rest) := s.span isOperatorChar
  if run.isEmpty then wordOperator s
  else
    let symbol := String.ofList run
    match Comparison.all.find? (·.symbol == symbol) with
    | some c => .ok (.comparison c, rest)
    | none => .error (.unknownOperator symbol)

/-- The operand of an operator. -/
def operand (op : Operator) (s : List Char) : Except QueryFault RawOperand :=
  if s.isEmpty then .error (.missingOperand op.symbol)
  else
    match op with
    | .membership _ => return .list (← literalItems s)
    | .comparison _ => return .scalar (String.ofList s)

/-- The parts of a condition without blanks around it. -/
def conditionParts (s : List Char) : Except QueryFault (FieldPath × Operator × RawOperand) :=
  if s.isEmpty then .error .emptyCondition
  else
    match fieldPath? s with
    | none => .error .expectedField
    | some (field, rest) => do
      let (op, rest) ← operator (Text.trimStart rest)
      let operand ← operand op (Text.trim rest)
      return (field, op, operand)

/-- One condition; a fault shows its text without the blanks around it. -/
def parseConditionChars (s : List Char) : Except IndexError Condition :=
  let trimmed := Text.trim s
  let segment := String.ofList trimmed
  match conditionParts trimmed with
  | .ok (field, op, operand) => .ok ⟨segment, field, op, operand⟩
  | .error fault => .error (.query segment fault)

/-- One condition. -/
def parseCondition (segment : String) : Except IndexError Condition :=
  parseConditionChars segment.toList

/-- The conditions of a query in written order. A quote that is never closed comes before every
other fault, and of the others the first one. -/
def parse (query : String) : Except IndexError (List Condition) :=
  if Text.allBlank query then .error (.query query .emptyQuery)
  else
    match segments query.toList with
    | .error segment =>
      .error (.query (String.ofList (Text.trim segment)) .unterminatedValue)
    | .ok parts => parts.mapM parseConditionChars

end SceneArchive.Query
