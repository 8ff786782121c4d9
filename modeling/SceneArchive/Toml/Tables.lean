import SceneArchive.Json.Basic

/-!
# The tables of a TOML document

While a document is read its tables grow in three ways: a header opens a table, a header in two
brackets appends an element to an array of tables, and an assignment gives a key its value. Each
table remembers how it came to be, since a table is opened by one header at most, and a dotted key
adds to no table that a header has opened or implied.
-/

namespace SceneArchive.Toml

/-- How a table came to be. -/
inductive Origin where
  /-- A header names it. -/
  | header
  /-- A header names a table below it. -/
  | implied
  /-- A dotted key leads through it. -/
  | dotted
  deriving DecidableEq, Repr

/-- What stands under a key of a table. -/
inductive Item where
  | value (tree : Json)
  | table (origin : Origin) (entries : List (String × Item))
  /-- An array of tables, its last element first. -/
  | elements (tables : List (List (String × Item)))

/-- The items of a table, in the order of their keys' first appearance. -/
abbrev Entries := List (String × Item)

namespace Entries

/-- Changes what stands under a key, which may be nothing yet. -/
def change? (key : String) (f : Option Item → Option Item) : Entries → Option Entries
  | [] => (f none).map fun item => [(key, item)]
  | (other, item) :: rest =>
    if other == key then (f (some item)).map fun item => (other, item) :: rest
    else (change? key f rest).map ((other, item) :: ·)

/-- Changes the table that keys lead to from a table of an origin. Tables on the way are created
as they are missing; of an array of tables the last element is entered. Dotted keys do not enter a
table that a header has opened. -/
def changeAt? (dotted : Bool) (f : Origin → Entries → Option Entries) :
    List String → Origin → Entries → Option Entries
  | [], origin, entries => f origin entries
  | key :: path, _, entries => entries.change? key fun item =>
    match item with
    | none =>
      let origin := if dotted then .dotted else .implied
      (changeAt? dotted f path origin []).map (.table origin)
    | some (.table origin inner) =>
      if dotted && origin == .header then none
      else (changeAt? dotted f path origin inner).map (.table origin)
    | some (.elements (last :: earlier)) =>
      (changeAt? dotted f path .header last).map fun last => .elements (last :: earlier)
    | some (.elements []) => none
    | some (.value _) => none

/-- Opens the table of a header, which only a header below it may have named before. -/
def openTable? (path : List String) (key : String) (root : Entries) : Option Entries :=
  root.changeAt? false (fun _ entries => entries.change? key fun item =>
    match item with
    | none => some (.table .header [])
    | some (.table .implied inner) => some (.table .header inner)
    | some _ => none) path .header

/-- Appends an element to the array of tables of a header. -/
def openElement? (path : List String) (key : String) (root : Entries) : Option Entries :=
  root.changeAt? false (fun _ entries => entries.change? key fun item =>
    match item with
    | none => some (.elements [[]])
    | some (.elements tables) => some (.elements ([] :: tables))
    | some _ => none) path .header

/-- Gives a key below the table of a header its value. The key has none before, and a table that
further keys lead to is one of dotted keys. -/
def assign? (header path : List String) (key : String) (tree : Json) (root : Entries) :
    Option Entries :=
  root.changeAt? false (fun origin entries =>
    entries.changeAt? true (fun origin entries =>
      if path.isEmpty || origin == .dotted then
        entries.change? key fun item => if item.isNone then some (.value tree) else none
      else none) path origin) header .header

mutual

/-- The fields of a table. -/
def fields : List (String × Item) → List (String × Json)
  | [] => []
  | (key, item) :: rest => (key, tree item) :: fields rest

/-- The tree of an item. -/
def tree : Item → Json
  | .value tree => tree
  | .table _ entries => .ofFields (fields entries)
  | .elements tables => .array (trees tables).reverse

/-- The trees of tables. -/
def trees : List (List (String × Item)) → List Json
  | [] => []
  | entries :: rest => .ofFields (fields entries) :: trees rest

end

/-- The tree of the root table. -/
def toJson (root : Entries) : Json := .ofFields (fields root)

end Entries

end SceneArchive.Toml
