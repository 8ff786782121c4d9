import SceneArchive.Schema.Error
import SceneArchive.Value

/-!
# Errors of an archive index

Each error holds its cause; `IndexError.message` is the one place that words it.
-/

namespace SceneArchive

/-- Why a value is refused. -/
inductive ValueFault where
  | missing
  | notInteger (shown : String)
  | notNumber (shown : String)
  | notDate (shown : String)
  | unsupported (type : ValueType) (shown : String)
  | emptyToken
  | noToken (path : String)
  | noDirectory (id : Int)
  | noProjection (id : Int)
  | projectionExists (directory projection : Int)
  | missingImage (path : String)
  deriving DecidableEq, Repr

/-- The text of a refusal. -/
def ValueFault.message : ValueFault → String
  | missing => "missing value"
  | notInteger shown => s!"{shown} is not an integer"
  | notNumber shown => s!"{shown} is not a number"
  | notDate shown => s!"{shown} is not a date"
  | unsupported type shown => s!"unsupported {type.name} value {shown}"
  | emptyToken => "date token is empty"
  | noToken path => s!"cannot derive a date token from {path}"
  | noDirectory id => s!"no metadata directory with id {id}"
  | noProjection id => s!"no projection definition with id {id}"
  | projectionExists directory projection =>
    s!"directory {directory} already has projection {projection}"
  | missingImage path => s!"paired image {path} does not exist"

/-- Why a condition of a query cannot be read. -/
inductive QueryFault where
  | emptyQuery
  | unterminatedValue
  | emptyCondition
  | expectedField
  | unknownOperator (run : String)
  | expectedIn
  | expectedOperator
  | missingOperand (operator : String)
  | expectedList
  | listNotClosed (close : Char)
  | emptyItem
  | unterminatedItem
  | afterQuotedItem (c : Char)
  | insideItem (c : Char)
  deriving DecidableEq, Repr

/-- The text of a fault. -/
def QueryFault.message : QueryFault → String
  | emptyQuery => "query is empty"
  | unterminatedValue => "unterminated quoted value"
  | emptyCondition => "empty condition"
  | expectedField => "expected a field name"
  | unknownOperator run => s!"unknown operator '{run}'"
  | expectedIn => "expected 'in' after 'not'"
  | expectedOperator => "expected an operator"
  | missingOperand operator => s!"missing value after '{operator}'"
  | expectedList => "expected a bracketed list"
  | listNotClosed close => s!"list is not closed with '{close}'"
  | emptyItem => "empty list item"
  | unterminatedItem => "unterminated quoted item"
  | afterQuotedItem c => s!"unexpected '{c}' after quoted item"
  | insideItem c => s!"unexpected '{c}' in list item"

/-- Why an argument is refused. -/
inductive ArgumentFault where
  | missingRecord (ref : Ref)
  | notOwned (kind parent : Kind)
  | notJoined (kind : Kind)
  | unknownFormat (given : String)
  | logLevel
  deriving DecidableEq, Repr

/-- The text of a refusal. -/
def ArgumentFault.message : ArgumentFault → String
  | missingRecord ref => s!"{ref.text} does not exist"
  | notOwned kind parent => s!"{kind.name} is not owned by {parent.name}"
  | notJoined kind => s!"{kind.name} cannot be joined to {Kind.georeferenceFile.name}"
  | unknownFormat given =>
    s!"unsupported export format '{given}' (expected json, csv, toml or yaml)"
  | logLevel => "invalid log level: "

/-- Why a statement is refused. -/
inductive StatementFault where
  /-- It makes no sense from a mark on. -/
  | syntaxNear (mark : String)
  /-- One value is compared with several. -/
  | severalValues
  /-- It has more marks for values than are allowed. -/
  | tooManyMarks
  deriving DecidableEq, Repr

/-- The text of a refusal. -/
def StatementFault.message : StatementFault → String
  | syntaxNear mark => s!"near \"{mark}\": syntax error"
  | severalValues => "row value misused"
  | tooManyMarks => "too many SQL variables"

/-- What is wrong with the name of a database that is a URI. -/
inductive UriFault where
  | authority (given : String)
  | cacheMode (given : String)
  | accessMode (given : String)
  /-- A mode that grants more than the one before it. -/
  | accessNotAllowed (given : String)
  | fileSystem (given : String)
  deriving DecidableEq, Repr

/-- The text of a fault. -/
def UriFault.message : UriFault → String
  | authority given => s!"invalid uri authority: {given}"
  | cacheMode given => s!"no such cache mode: {given}"
  | accessMode given => s!"no such access mode: {given}"
  | accessNotAllowed given => s!"access mode not allowed: {given}"
  | fileSystem given => s!"no such vfs: {given}"

/-- A fault of the stored data or of its file. -/
inductive StorageFault where
  | cannotOpen (path : String)
  /-- A file that belongs to the database has no room for its name. -/
  | cannotOpenCompanion
  | notDatabase
  /-- Something that should be a file cannot be read or written as one. -/
  | inputOutput
  | readOnly
  /-- A path holds the character zero, which ends it, behind so many bytes. -/
  | zeroInPath (position : Nat)
  | invalidUri (fault : UriFault)
  /-- A statement is refused; the fault lies behind so many bytes. -/
  | refused (fault : StatementFault) (statement : String) (offset : Nat)
  /-- The condition of a statement is nested too deeply. -/
  | tooDeep
  /-- A stored date that does not read back; the column is named where it is known. -/
  | invalidDate (stored : String) (column : Option String)
  deriving DecidableEq, Repr

/-- The text of a fault. -/
def StorageFault.message : StorageFault → String
  | cannotOpen path => s!"unable to open database file: {path}"
  | cannotOpenCompanion => "unable to open database file"
  | notDatabase => "file is not a database"
  | inputOutput => "disk I/O error"
  | readOnly => "attempt to write a readonly database"
  | zeroInPath position => s!"nul byte found in provided data at position: {position}"
  | invalidUri fault => fault.message
  | refused fault statement offset => s!"{fault.message} in {statement} at offset {offset}"
  | tooDeep => "Expression tree is too large (maximum depth 1000)"
  | invalidDate stored column =>
    s!"Conversion error from type Text at index: 0, invalid stored date '{stored}'" ++
      match column with
      | some name => s!" in column {name}"
      | none => ""

/-- A fault of the files around an index. -/
inductive FileFault where
  | missing
  | isDirectory
  | fileExists
  | notDirectory
  | denied
  | nameTooLong
  /-- A path holds the character zero. -/
  | zeroInName
  /-- The content is no text. -/
  | notText
  deriving DecidableEq, Repr

/-- The text of a fault, with its number if it has one. -/
def FileFault.message : FileFault → String
  | missing => "No such file or directory (os error 2)"
  | isDirectory => "Is a directory (os error 21)"
  | fileExists => "File exists (os error 17)"
  | notDirectory => "Not a directory (os error 20)"
  | denied => "Permission denied (os error 13)"
  | nameTooLong => "File name too long (os error 36)"
  | zeroInName => "file name contained an unexpected NUL byte"
  | notText => "stream did not contain valid UTF-8"

/-- A value that an export format cannot write. -/
inductive EncodingFault where
  /-- An integer beyond the signed sixty-four bits of a TOML document. -/
  | tomlInteger
  deriving DecidableEq, Repr

/-- The text of a fault. -/
def EncodingFault.message : EncodingFault → String
  | tomlInteger => "toml error: out-of-range value for u64 type"

/-- An error of an archive index. -/
inductive IndexError where
  | schema (fault : SchemaError)
  | value (field : String) (fault : ValueFault)
  | query (segment : String) (fault : QueryFault)
  | unknownField (name : String)
  | ambiguousField (name : String) (candidates : List String)
  | storage (fault : StorageFault)
  | missingDatabase (path : String)
  | argument (fault : ArgumentFault)
  | file (fault : FileFault)
  | encoding (fault : EncodingFault)
  deriving DecidableEq, Repr

namespace IndexError

/-- The text of an error. -/
def message : IndexError → String
  | schema fault => fault.message
  | value field fault => s!"invalid value for '{field}': {fault.message}"
  | query segment fault => s!"invalid query condition '{segment}': {fault.message}"
  | unknownField name => s!"unknown field '{name}'"
  | ambiguousField name candidates =>
    s!"field '{name}' is ambiguous; use one of: " ++ ", ".intercalate candidates
  | storage fault => s!"storage error: {fault.message}"
  | missingDatabase path => s!"database not found at {path}"
  | argument fault => s!"invalid argument: {fault.message}"
  | file fault => s!"I/O error: {fault.message}"
  | encoding fault => fault.message

/-- The name of the sort of an error. -/
def code : IndexError → String
  | schema _ => "SchemaError"
  | value .. => "ValidationError"
  | query .. => "QuerySyntaxError"
  | unknownField _ => "UnknownFieldError"
  | ambiguousField .. => "AmbiguousFieldError"
  | storage _ => "ExecutionError"
  | missingDatabase _ => "MissingDatabase"
  | argument _ => "InvalidArgument"
  | file _ => "IoError"
  | encoding _ => "EncodingError"

end IndexError

end SceneArchive
