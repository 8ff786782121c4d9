import SceneArchive.Text.Category

/-!
# Text shown in messages

A text between double quotes in which every character can be seen: quotes, backslashes and the
characters that have no shape of their own are escaped.
-/

namespace SceneArchive.Text

/-- A character inside shown text. One that is not seen is shown by its number. -/
def shownChar (c : Char) : List Char :=
  match c with
  | '"' => ['\\', '"']
  | '\\' => ['\\', '\\']
  | '\n' => ['\\', 'n']
  | '\r' => ['\\', 'r']
  | '\t' => ['\\', 't']
  | '\x00' => ['\\', '0']
  | c =>
    if isVisible c then [c] else ['\\', 'u', '\x7b'] ++ Nat.toDigits 16 c.toNat ++ ['\x7d']

/-- A text as messages show it. -/
def shown (s : String) : String := "\"" ++ String.ofList (s.toList.flatMap shownChar) ++ "\""

end SceneArchive.Text
