import SceneArchive.Json.Printer
import SceneArchive.Text.Shown

/-!
# Decoding trees

How typed descriptions are read from JSON. A structure is read from an object, whose members are
looked at in the order of their names, or from an array, which holds the members in declared
order. The first fault is reported: of an object first those of its members and then the first
member that is missing.
-/

namespace SceneArchive

/-- What a decoder looks for. -/
inductive Expected where
  | text
  | path
  | number
  | sequence
  | map
  | structure (name : String)
  deriving DecidableEq, Repr

/-- The words for what a decoder looks for. -/
def Expected.words : Expected → String
  | text => "a string"
  | path => "path string"
  | number => "f64"
  | sequence => "a sequence"
  | map => "a map"
  | .structure name => s!"struct {name}"

/-- Why a tree cannot be decoded. -/
inductive DecodeError where
  | missingField (name : String)
  | duplicateField (name : String)
  /-- A tree of another sort, shown by what it is. -/
  | invalidType (found : String) (expected : Expected)
  /-- An array that ends before a member that must be there. -/
  | tooShort (length : Nat) (name : String) (members : Nat)
  /-- An array with more items than there are members. -/
  | tooLong (length : Nat)
  deriving DecidableEq, Repr

/-- The text of a fault. -/
def DecodeError.message : DecodeError → String
  | missingField name => s!"missing field \x60{name}\x60"
  | duplicateField name => s!"duplicate field \x60{name}\x60"
  | invalidType found expected => s!"invalid type: {found}, expected {expected.words}"
  | tooShort length name members =>
    s!"invalid length {length}, expected struct {name} with {members} elements"
  | tooLong length => s!"invalid length {length}, expected fewer elements in array"

namespace Decode

/-- What a tree is, in the words of a message. -/
def found : Json → String
  | .null => "null"
  | .bool b => s!"boolean \x60{b}\x60"
  | .number (.int n) => s!"integer \x60{n}\x60"
  | .number (.float x) => s!"floating point \x60{Decimal.Layout.json.text x}\x60"
  | .string s => s!"string {Text.shown s}"
  | .array _ => "sequence"
  | .object _ => "map"

/-- The fault of a tree of another sort. -/
def mismatch {α : Type} (tree : Json) (expected : Expected) : Except DecodeError α :=
  .error (.invalidType (found tree) expected)

/-- A string. -/
def text : Json → Except DecodeError String
  | .string s => .ok s
  | tree => mismatch tree .text

/-- A path. -/
def filePath : Json → Except DecodeError String
  | .string s => .ok s
  | tree => mismatch tree .path

/-- A number, as the double nearest to it. -/
def number : Json → Except DecodeError Float
  | .number (.int n) => .ok (Binary64.ofInt n)
  | .number (.float x) => .ok x
  | tree => mismatch tree .number

/-- The fields of an object. -/
def map : Json → Except DecodeError Fields
  | .object fields => .ok fields
  | tree => mismatch tree .map

/-- Any tree, as it is. -/
def anything (tree : Json) : Except DecodeError Json := .ok tree

/-- A list. -/
def list {α : Type} (item : Json → Except DecodeError α) : Json → Except DecodeError (List α)
  | .array items => items.mapM item
  | tree => mismatch tree .sequence

/-- A value or null. -/
def nullable {α : Type} (value : Json → Except DecodeError α) :
    Json → Except DecodeError (Option α)
  | .null => .ok none
  | tree => (value tree).map some

/-- A member of a structure: its name, other names for it, whether it must be there, and how its
value is checked. -/
structure Member where
  name : String
  otherNames : List String
  isRequired : Bool
  check : Json → Except DecodeError Unit

/-- A member that must be there. -/
def member {α : Type} (name : String) (value : Json → Except DecodeError α) : Member :=
  ⟨name, [], true, fun tree => (value tree).map fun _ => ()⟩

/-- A member that may be left out. -/
def optionalMember {α : Type} (name : String) (value : Json → Except DecodeError α) : Member :=
  ⟨name, [], false, fun tree => (value tree).map fun _ => ()⟩

/-- A member with one more name. -/
def Member.orNamed (m : Member) (name : String) : Member :=
  { m with otherNames := name :: m.otherNames }

/-- Whether a key names a member. -/
def Member.isNamed (m : Member) (key : String) : Bool := m.name == key || m.otherNames.contains key

/-- The members found in an object or array, by their names. -/
abbrev Found := List (String × Json)

/-- The members among the fields of an object, behind those already found. Fields without a member
are skipped. -/
def findMembers (members : List Member) (found : Found) : Fields → Except DecodeError Found
  | [] => .ok found
  | (key, tree) :: rest =>
    match members.find? (·.isNamed key) with
    | none => findMembers members found rest
    | some m =>
      if found.any (·.1 == m.name) then .error (.duplicateField m.name)
      else do
        m.check tree
        findMembers members ((m.name, tree) :: found) rest

/-- Refuses the first member that must be there and is not. -/
def requireMembers (found : Found) : List Member → Except DecodeError Unit
  | [] => .ok ()
  | m :: rest =>
    if m.isRequired && !found.any (·.1 == m.name) then .error (.missingField m.name)
    else requireMembers found rest

/-- The members that the items of an array are, in declared order; `index` counts the members
passed. -/
def takeMembers (name : String) (count index : Nat) :
    List Member → List Json → Except DecodeError Found
  | [], _ => .ok []
  | m :: rest, [] =>
    if m.isRequired then .error (.tooShort index name count)
    else takeMembers name count (index + 1) rest []
  | m :: rest, tree :: trees => do
    m.check tree
    return (m.name, tree) :: (← takeMembers name count (index + 1) rest trees)

/-- The members of a structure. -/
def members (name : String) (members : List Member) : Json → Except DecodeError Found
  | .object fields => do
    let found ← findMembers members [] fields
    requireMembers found members
    return found
  | .array items => do
    let found ← takeMembers name members.length 0 members items
    if members.length < items.length then .error (.tooLong items.length) else return found
  | tree => mismatch tree (.structure name)

/-- The value of a member that must be there. -/
def Found.get {α : Type} (found : Found) (name : String) (value : Json → Except DecodeError α) :
    Except DecodeError α :=
  match found.find? (·.1 == name) with
  | some (_, tree) => value tree
  | none => .error (.missingField name)

/-- The value of a member that may be left out. -/
def Found.getD {α : Type} (found : Found) (name : String) (value : Json → Except DecodeError α)
    (default : α) : Except DecodeError α :=
  match found.find? (·.1 == name) with
  | some (_, tree) => value tree
  | none => .ok default

end Decode

end SceneArchive
