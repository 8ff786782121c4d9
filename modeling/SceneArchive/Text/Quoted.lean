/-!
# Quoted text

One pair of equal quotes around a text is not part of it.
-/

namespace SceneArchive.Text

/-- The two characters that open and close quoted text. -/
def isQuote (c : Char) : Bool := c == '\'' || c == '"'

/-- The text inside one matching pair of quotes, or the text itself where none surrounds it. A
single quote character is no pair. -/
def unquote (s : List Char) : List Char :=
  match s with
  | first :: rest@(_ :: _) =>
    if isQuote first && rest.getLast? == some first then rest.dropLast else s
  | _ => s

/-- The string inside one matching pair of quotes. -/
def unquoted (s : String) : String := String.ofList (unquote s.toList)

theorem unquote_quoted {q : Char} (hq : isQuote q = true) (s : List Char) :
    unquote (q :: s ++ [q]) = s := by
  cases s with
  | nil => simp [unquote, hq]
  | cons c r =>
    have last : ((c :: r) ++ [q]).getLast? = some q := List.getLast?_concat
    have inner : ((c :: r) ++ [q]).dropLast = c :: r := List.dropLast_concat
    rw [List.cons_append] at last inner
    simp [unquote, hq, last, inner]

end SceneArchive.Text
