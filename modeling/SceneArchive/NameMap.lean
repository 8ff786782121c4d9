/-!
# Maps by name

A finite map from names to values as the list of its entries in increasing order of the names,
each name once. `insert` keeps that order; the value inserted last is the one that stays.

* `get?_insert`: reading after an insertion gives the inserted value under its name and the old
  one under every other name.
-/

namespace SceneArchive

/-- Entries by increasing name. -/
abbrev NameMap (α : Type) := List (String × α)

namespace NameMap

variable {α : Type}

/-- The value under a name. -/
def get? (map : NameMap α) (name : String) : Option α := (map.find? (·.1 == name)).map (·.2)

/-- Sets a value at its place in the order, in place of an earlier value of that name. -/
def insert (name : String) (value : α) : NameMap α → NameMap α
  | [] => [(name, value)]
  | (other, old) :: rest =>
    if name < other then (name, value) :: (other, old) :: rest
    else if name = other then (name, value) :: rest
    else (other, old) :: insert name value rest

/-- The map that setting each of a list of entries in turn gives. -/
def ofList (entries : List (String × α)) : NameMap α :=
  entries.foldl (fun map entry => insert entry.1 entry.2 map) []

@[simp]
theorem get?_nil (name : String) : get? ([] : NameMap α) name = none := rfl

theorem get?_cons (other : String) (value : α) (rest : NameMap α) (name : String) :
    get? ((other, value) :: rest) name = if other = name then some value else get? rest name := by
  by_cases h : other = name <;> simp [get?, h]

theorem get?_insert (name : String) (value : α) (map : NameMap α) (other : String) :
    get? (insert name value map) other = if name = other then some value else get? map other := by
  induction map with
  | nil => simp [insert, get?_cons]
  | cons entry rest ih =>
    obtain ⟨key, old⟩ := entry
    unfold insert
    split
    · simp [get?_cons]
    · split
      · next h => subst h; simp only [get?_cons]; split <;> rfl
      · next h =>
        simp only [get?_cons, ih]
        by_cases h1 : key = other
        · subst h1; simp [h]
        · simp [h1]

end NameMap

end SceneArchive
