import SceneArchive.Json.Printer

/-!
# Strings and keys of TOML

A string is written in the first of these forms that can hold it as it is: between double quotes,
between single quotes, between three double quotes, between three single quotes. A string that
none of them holds is written with escapes between double quotes, three of them if it has line
breaks.
-/

namespace SceneArchive.Toml

/-- Control characters that no form holds without an escape. Tabs and line breaks are none. -/
def isControl (c : Char) : Bool :=
  c != '\t' && c != '\n' && (c.toNat < 0x20 || c.toNat == 0x7f)

/-- The length of the longest run of a character. -/
def longestRun (c : Char) (s : List Char) : Nat :=
  (s.foldl (fun (best, now) d => if d == c then (max best (now + 1), now + 1) else (best, 0))
    (0, 0)).1

/-- The escape of a character between double quotes; `multiline` texts keep their line breaks. -/
def escape? (multiline : Bool) (c : Char) : Option String :=
  match c with
  | '\x08' => some "\\b"
  | '\t' => some "\\t"
  | '\n' => if multiline then none else some "\\n"
  | '\x0c' => some "\\f"
  | '\r' => some "\\r"
  | '\\' => some "\\\\"
  | c =>
    if isControl c then
      let digit (n : Nat) : Char := (Nat.digitChar n).toUpper
      some ("\\u00" ++ String.ofList [digit (c.toNat / 16), digit (c.toNat % 16)])
    else none

/-- The text between double quotes. Of a run of double quotes the first `free` need no escape;
`run` counts those just written. -/
def escapeFrom (multiline : Bool) (free run : Nat) : List Char → List String
  | [] => []
  | '"' :: rest =>
    if run < free then "\"" :: escapeFrom multiline free (run + 1) rest
    else "\\\"" :: escapeFrom multiline free 0 rest
  | c :: rest => (escape? multiline c).getD (String.singleton c) :: escapeFrom multiline free 0 rest

/-- A text between double quotes, three of them for a multiline form. -/
def basic (multiline : Bool) (s : List Char) : String :=
  let mark := if multiline then "\"\"\"" else "\""
  mark ++ (if multiline && s.contains '\n' then "\n" else "") ++
    String.join (escapeFrom multiline (if multiline then 2 else 0) 0 s) ++ mark

/-- A text between single quotes, three of them for a multiline form. -/
def literal (multiline : Bool) (s : List Char) : String :=
  let mark := if multiline then "'''" else "'"
  mark ++ (if multiline && s.contains '\n' then "\n" else "") ++ String.ofList s ++ mark

/-- A string value. -/
def string (text : String) : String :=
  let s := text.toList
  let control := s.any isControl
  let broken := s.contains '\n'
  let backslash := s.contains '\\'
  if !control && !broken && !backslash && !s.contains '"' then basic false s
  else if !control && !broken && !s.contains '\'' then literal false s
  else if !control && !backslash && longestRun '"' s ≤ 2 then basic true s
  else if !control && longestRun '\'' s ≤ 2 then literal true s
  else basic broken s

/-- The characters of a key without quotes. -/
def isBareKeyChar (c : Char) : Bool := c.isAlphanum || c == '_' || c == '-'

/-- A key: bare if it can be, else a string on one line. -/
def key (name : String) : String :=
  let s := name.toList
  let held := !s.any fun c => isControl c || c == '\n'
  if !s.isEmpty && s.all isBareKeyChar then name
  else if held && !s.contains '\\' && !s.contains '"' then basic false s
  else if held && !s.contains '\'' then literal false s
  else basic false s

end SceneArchive.Toml
