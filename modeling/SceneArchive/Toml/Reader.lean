import SceneArchive.Toml.Scalar
import SceneArchive.Toml.Tables

/-!
# Reading TOML

A reader of TOML documents. A document is a list of statements, one a line: headers of tables, and
assignments to the table of the last header. Keys have at most 79 parts, and values are nested at
most 79 levels deep.
-/

namespace SceneArchive.Toml

/-- The number that the parts of a key and the levels of a value stay below. -/
def levelLimit : Nat := 80

/-- One part of a key and what follows it. -/
def readKeyPart? : List Char → Option (String × List Char)
  | '"' :: rest => readLine '"' rest
  | '\'' :: rest => readLine '\'' rest
  | s =>
    let (part, after) := s.span isBareKeyChar
    if part.isEmpty then none else some (String.ofList part, after)

/-- The parts of a key, parted by points with or without blanks around them, and what follows the
key and its blanks. At most `fuel` parts are read. -/
def readKey? : Nat → List Char → Option (List String × List Char)
  | 0, _ => none
  | fuel + 1, s => do
    let (part, after) ← readKeyPart? (skipGap s)
    match skipGap after with
    | '.' :: rest =>
      let (parts, after) ← readKey? fuel rest
      some (part :: parts, after)
    | after => some ([part], after)

/-- The keys that lead to a table, the last key, and what follows them. -/
def readPath? (s : List Char) : Option (List String × String × List Char) := do
  let (parts, after) ← readKey? (levelLimit - 1) s
  some (parts.dropLast, ← parts.getLast?, after)

/-- What follows a comment, if one begins here. -/
def skipComment? : List Char → Option (List Char)
  | '#' :: rest =>
    let after := rest.dropWhile isPlain
    if after.isEmpty || (afterBreak? after).isSome then some after else none
  | s => some s

/-- What follows the blanks, line breaks and comments inside an array, as many as `fuel`
comments. -/
def skipLines? : Nat → List Char → Option (List Char)
  | 0, _ => none
  | fuel + 1, s =>
    match skipBreaks s with
    | '#' :: rest => do skipLines? fuel (← skipComment? ('#' :: rest))
    | after => some after

mutual

/-- A value and what follows it, in at most `fuel` steps and `depth` more levels. -/
def readValue? : Nat → Nat → List Char → Option (Json × List Char)
  | 0, _, _ => none
  | fuel + 1, depth, s =>
    match s with
    | '"' :: rest => (readString '"' rest).map fun (text, after) => (.string text, after)
    | '\'' :: rest => (readString '\'' rest).map fun (text, after) => (.string text, after)
    | '[' :: rest =>
      match depth with
      | 0 => none
      | depth + 1 => readItems? fuel depth [] rest
    | '\x7b' :: rest =>
      match depth with
      | 0 => none
      | depth + 1 =>
        match skipGap rest with
        | '\x7d' :: after => some (.object [], after)
        | fields => readFields? fuel depth [] fields
    | s =>
      let (word, after) := splitWord s
      (wordValue? word).map fun tree => (tree, after)

/-- The items of an array behind those already read, the last of them first. A comma may stand
behind the last item. -/
def readItems? : Nat → Nat → List Json → List Char → Option (Json × List Char)
  | 0, _, _, _ => none
  | fuel + 1, depth, items, s => do
    match ← skipLines? (s.length + 1) s with
    | ']' :: after => some (.array items.reverse, after)
    | inner =>
      let (item, after) ← readValue? fuel depth inner
      match ← skipLines? (after.length + 1) after with
      | ',' :: rest => readItems? fuel depth (item :: items) rest
      | ']' :: rest => some (.array (item :: items).reverse, rest)
      | _ => none

/-- The fields of a table in line behind those already read. -/
def readFields? : Nat → Nat → Entries → List Char → Option (Json × List Char)
  | 0, _, _, _ => none
  | fuel + 1, depth, entries, s => do
    let (path, key, afterKey) ← readPath? s
    match afterKey with
    | '=' :: rest =>
      let (tree, after) ← readValue? fuel depth (skipGap rest)
      let entries ← entries.assign? [] path key tree
      match skipGap after with
      | ',' :: rest => readFields? fuel depth entries rest
      | '\x7d' :: rest => some (entries.toJson, rest)
      | _ => none
    | _ => none

end

/-- What has been read of a document: its tables, and the keys of the last header. -/
structure Progress where
  root : Entries
  header : List String

/-- The document after a header behind its bracket, and what follows the header. -/
def readHeader? (p : Progress) (s : List Char) : Option (Progress × List Char) := do
  match s with
  | '[' :: rest =>
    let (path, key, after) ← readPath? rest
    match after with
    | ']' :: ']' :: after => some (⟨← p.root.openElement? path key, path ++ [key]⟩, after)
    | _ => none
  | s =>
    let (path, key, after) ← readPath? s
    match after with
    | ']' :: after => some (⟨← p.root.openTable? path key, path ++ [key]⟩, after)
    | _ => none

/-- The document after an assignment, and what follows it. -/
def readAssignment? (p : Progress) (s : List Char) : Option (Progress × List Char) := do
  let (path, key, after) ← readPath? s
  match after with
  | '=' :: rest =>
    let (tree, after) ← readValue? (2 * rest.length + 2) (levelLimit - 1) (skipGap rest)
    some ({ p with root := ← p.root.assign? p.header path key tree }, after)
  | _ => none

/-- The document after the statement of a line, which may be empty, and what follows it. -/
def readStatement? (p : Progress) (s : List Char) : Option (Progress × List Char) :=
  match s with
  | [] | '#' :: _ | '\n' :: _ | '\r' :: _ => some (p, s)
  | '[' :: rest => readHeader? p rest
  | s => readAssignment? p s

/-- The document after at most `fuel` lines. -/
def readLines? : Nat → Progress → List Char → Option Progress
  | 0, _, _ => none
  | fuel + 1, p, s => do
    let (p, after) ← readStatement? p (skipGap s)
    match ← skipComment? (skipGap after) with
    | [] => some p
    | after => readLines? fuel p (← afterBreak? after)

/-- The tree of a document. A mark of the byte order may stand before it. -/
def read? (text : String) : Option Json := do
  let s := text.toList
  let s := if s.head? == some '\ufeff' then s.tail else s
  let p ← readLines? (s.length + 1) ⟨[], []⟩ s
  some p.root.toJson

end SceneArchive.Toml
