import SceneArchive.Archive.Entity
import SceneArchive.Schema.Standard
import SceneArchive.Error

/-!
# Flattening

Records as nested trees. The tree of a record has its attributes, the tree of its parent under the
name of the relationship, and for each kind of its children a list of their trees. Links lead both
ways, so two guards cut them: a record is expanded once only, and where it is met again a marker
stands for it; and a kind that is already on the path from the root is not entered again.

* `expand` recurs at most as deep as there are records still to be expanded, since each level
  expands one of them.
-/

namespace SceneArchive

/-- Records and the links between them. -/
structure Source where
  schema : Schema
  /-- The references of the records there are. -/
  refs : List Ref
  /-- The record of a reference. -/
  load : Ref → Except IndexError Entity
  /-- The records of a kind that belong to a record, by identifier. -/
  children : Ref → Kind → Except IndexError (List Entity)

/-- A list of records as a source. A reference leads to the first record that has it; the children
of a record are those that name it as their parent, by identifier and else in the order of the
list. -/
def Source.ofRecords (schema : Schema) (records : List Entity) : Source where
  schema := schema
  refs := records.map (·.ref)
  load r :=
    match records.find? (·.ref == r) with
    | some e => .ok e
    | none => .error (.argument (.missingRecord r))
  children r kind := .ok <|
    (records.filter fun e => e.kind == kind && e.parent? == some r).mergeSort fun a b =>
      decide (a.id ≤ b.id)

namespace Flatten

/-- A traversal, which keeps the references of the records it has begun to expand, the latest
first. What was begun stays even if the traversal fails. -/
abbrev Traversal (α : Type) := ExceptT IndexError (StateM (List Ref)) α

/-- The name of the one member of a marker. -/
def markerName : String := "$visited"

/-- What stands for a record that is not expanded again. -/
def marker (r : Ref) : Json := .object [(markerName, .string r.text)]

/-- The relation to the parent and the parent, where its kind is not yet on the path. -/
def openParent? (s : Source) (path : List Kind) (e : Entity) : Option (Relation × Ref) := do
  let relation ← s.schema.parentOf e.kind
  let parent ← e.parent?
  if path.contains relation.parent then none else some (relation, parent)

/-- The kinds of children that are not yet on the path. -/
def openChildKinds (s : Source) (path : List Kind) (kind : Kind) : List Kind :=
  ((s.schema.childrenOf kind).map (·.kind)).filter (!path.contains ·)

section

-- Computations that keep the visited references and can fail; `next` gives the tree of a record
-- further on.
variable {m : Type → Type} [Monad m] [MonadExceptOf IndexError m] [MonadStateOf (List Ref) m]

/-- The tree of the parent under the name of the relationship, where it is not cut off. -/
def parentMember (s : Source) (next : Entity → m Json) (path : List Kind) (e : Entity) :
    m Fields :=
  match openParent? s path e with
  | none => pure []
  | some (relation, parent) => do
    let record ← MonadExcept.ofExcept (s.load parent)
    return [(relation.slot.field, ← next record)]

/-- The trees of the children of a kind under the name of the kind. -/
def childrenMember (s : Source) (next : Entity → m Json) (r : Ref) (kind : Kind) :
    m (String × Json) := do
  let children ← MonadExcept.ofExcept (s.children r kind)
  return (kind.name, .array (← children.mapM next))

/-- The tree of a record on a path that ends with its own kind. -/
def members (s : Source) (next : Entity → m Json) (path : List Kind) (e : Entity) : m Json := do
  let parents ← parentMember s next path e
  let lists ← (openChildKinds s path e.kind).mapM (childrenMember s next e.ref)
  return .object ((parents ++ lists).foldl
    (fun fields (name, tree) => NameMap.insert name tree fields) e.fields)

/-- The tree of a record below the kinds of a path, or a marker where it is visited again. -/
def visit (s : Source) (next : List Kind → Entity → m Json) (path : List Kind) (e : Entity) :
    m Json := do
  if (← get).contains e.ref then
    return marker e.ref
  modify (e.ref :: ·)
  members s (next (e.kind :: path)) (e.kind :: path) e

end

/-- The tree of a record below the kinds of a path, at most `depth` levels deep. -/
def expand (s : Source) : Nat → List Kind → Entity → Traversal Json
  | 0, _, e => return marker e.ref
  | depth + 1, path, e => visit s (expand s depth) path e

/-- The tree of a record that no path leads to. One level more than there are records leaves room
for a record that the source does not list. -/
def tree (s : Source) (e : Entity) : Traversal Json := expand s (s.refs.length + 2) [] e

/-- The tree of a record by itself. -/
def toTree (s : Source) (e : Entity) : Except IndexError Json := ((tree s e).run []).1

/-- The trees of records, each by itself. -/
def toTrees (s : Source) (es : List Entity) : Except IndexError (List Json) := es.mapM (toTree s)

/-- The order of references by kind in declaration order and then by identifier. -/
def refBefore (a b : Ref) : Bool :=
  a.kind.index < b.kind.index || (a.kind.index == b.kind.index && decide (a.id ≤ b.id))

end Flatten

end SceneArchive
