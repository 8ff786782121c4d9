/-!
# Paths

Paths of files as text, with `/` between the names. A path is kept as it is written; its
components leave out repeated and trailing separators and every `.` but a leading one.
-/

namespace SceneArchive

/-- A component of a path. -/
inductive PathComponent where
  | root
  | current
  | parent
  | name (s : List Char)
  deriving DecidableEq, Repr

namespace Path

/-- The texts between the separators, in order; one more than there are separators. -/
def pieces : List Char → List (List Char)
  | [] => [[]]
  | c :: rest =>
    if c == '/' then [] :: pieces rest
    else
      match pieces rest with
      | [] => [[c]]
      | first :: others => (c :: first) :: others

/-- The component of a text between separators that is not the first one. -/
def innerComponent? : List Char → Option PathComponent
  | [] => none
  | ['.'] => none
  | ['.', '.'] => some .parent
  | s => some (.name s)

/-- The component of the text before the first separator. -/
def firstComponent? (absolute : Bool) : List Char → Option PathComponent
  | [] => if absolute then some .root else none
  | ['.'] => some .current
  | s => innerComponent? s

/-- The components of a path. -/
def components (path : String) : List PathComponent :=
  match pieces path.toList with
  | [] => []
  | first :: others =>
    (firstComponent? (path.toList.head? == some '/') first).toList ++
      others.filterMap innerComponent?

/-- The name at the end of a list of components, if a name is there. -/
def lastName? (components : List PathComponent) : Option (List Char) :=
  match components.getLast? with
  | some (.name s) => some s
  | _ => none

/-- The name of the file that a path leads to. -/
def fileName? (path : String) : Option (List Char) := lastName? (components path)

/-- The name of the directory that holds the file. -/
def parentName? (path : String) : Option String :=
  (lastName? (components path).dropLast).map String.ofList

/-- A name at its last point, unless the point is its first character: the stem and the
extension. -/
def splitName (name : List Char) : List Char × Option (List Char) :=
  match name.reverse.span (· != '.') with
  | (after, '.' :: before) =>
    if before.isEmpty then (name, none) else (before.reverse, some after.reverse)
  | _ => (name, none)

/-- The extension of the file that a path leads to. -/
def extension? (path : String) : Option String :=
  ((fileName? path).bind fun name => (splitName name).2).map String.ofList

/-- A reversed path without the separators and points behind its last name. -/
def dropTail : List Char → List Char
  | '/' :: rest => dropTail rest
  | '.' :: '/' :: rest => dropTail rest
  | s => s

/-- The path with the extension of its file replaced, or given one. A path that does not end in a
name stays as it is. The old extension is cut off first, up to its point: a name of two points and
an extension becomes the path of a parent then, and stays that. -/
def withExtension (path extension : String) : String :=
  match fileName? path with
  | none => path
  | some name =>
    let body := dropTail path.toList.reverse
    let directory := (body.drop name.length).reverse
    match splitName name with
    | (['.'], some _) =>
      if body.length = path.length then String.ofList (directory ++ ['.', '.'])
      else String.ofList (directory ++ ['.']) ++ "." ++ extension
    | (stem, _) => String.ofList (directory ++ stem) ++ "." ++ extension

/-- The text of a list of components. -/
def textOf : List PathComponent → List Char
  | [] => []
  | [c] => componentText c
  | .root :: rest => '/' :: textOf rest
  | c :: rest => componentText c ++ '/' :: textOf rest
where
  /-- The text of one component. -/
  componentText : PathComponent → List Char
    | .root => ['/']
    | .current => ['.']
    | .parent => ['.', '.']
    | .name s => s

/-- The components of a path with each parent taken back by the name before it, in reverse. -/
def resolveComponents (resolved : List PathComponent) : List PathComponent → List PathComponent
  | [] => resolved
  | .current :: rest => resolveComponents resolved rest
  | .parent :: rest =>
    match resolved with
    | .name _ :: before => resolveComponents before rest
    | [.root] => resolveComponents resolved rest
    | _ => resolveComponents (.parent :: resolved) rest
  | c :: rest => resolveComponents (c :: resolved) rest

/-- The path of components in reverse. -/
def ofReversed : List PathComponent → String
  | [] => "."
  | reversed => String.ofList (textOf reversed.reverse)

/-- The path without what can be left out of it by its text alone: separators that are repeated or
at the end, names that a parent takes back, and points. -/
def resolved (path : String) : String := ofReversed (resolveComponents [] (components path))

/-- The directories in which the names among components are looked up, one behind the other, if the
components lead on from a resolved path. -/
def lookups (resolved : List PathComponent) : List PathComponent → List String
  | [] => []
  | .name s :: rest => ofReversed resolved :: lookups (.name s :: resolved) rest
  | c :: rest => lookups (resolveComponents resolved [c]) rest

/-- The directory that holds the file, unless the path is a single name. -/
def directory? (path : String) : Option String :=
  match (components path).dropLast with
  | [] => none
  | rest => some (String.ofList (textOf rest))

/-- Whether a path starts at the root of all files. -/
def isAbsolute (path : String) : Bool := path.toList.head? == some '/'

/-- The path of a name in a directory. -/
def join (directory name : String) : String :=
  if directory.isEmpty || directory.toList.getLast? == some '/' then directory ++ name
  else directory ++ "/" ++ name

end Path

end SceneArchive
