import SceneArchive.Error
import SceneArchive.Text.Quoted

/-!
# Literal lists

The operand of a membership test: items between brackets, separated by commas. An item is quoted
text or a bare run without commas, quotes and brackets; one comma may follow the last item.
-/

namespace SceneArchive.Query

/-- A character that a bare item must not have. -/
def breaksItem (c : Char) : Bool :=
  Text.isQuote c || c == '[' || c == ']' || c == '(' || c == ')'

/-- What follows an item: nothing, or a comma and the rest. -/
def afterItem (s : List Char) : Except QueryFault (Option (List Char)) :=
  match Text.trimStart s with
  | [] => .ok none
  | ',' :: rest => .ok (some rest)
  | c :: _ => .error (.afterQuotedItem c)

/-- A bare item and what follows its comma, if there is one. -/
def bareItem (s : List Char) : Except QueryFault (String × Option (List Char)) :=
  let (item, rest) := s.span fun c => c != ',' && !breaksItem c
  let text := String.ofList (Text.trim item)
  match rest with
  | [] => .ok (text, none)
  | ',' :: rest => .ok (text, some rest)
  | c :: _ => .error (.insideItem c)

/-- A quoted item, its quotes kept, and what follows its comma, if there is one. -/
def quotedItem (quote : Char) (s : List Char) :
    Except QueryFault (String × Option (List Char)) :=
  match s.span (· != quote) with
  | (_, []) => .error .unterminatedItem
  | (text, _ :: rest) => do
    return (String.ofList (quote :: text ++ [quote]), ← afterItem rest)

/-- The first item of a text that begins with neither blank nor comma. -/
def firstItem (c : Char) (rest : List Char) : Except QueryFault (String × Option (List Char)) :=
  if Text.isQuote c then quotedItem c rest else bareItem (c :: rest)

/-- The items between the brackets; every step takes at least one character, so as many steps as
there are characters are enough. -/
def itemsWithin : Nat → List Char → Except QueryFault (List String)
  | 0, _ => .ok []
  | steps + 1, s =>
    match Text.trimStart s with
    | [] => .ok []
    | ',' :: _ => .error .emptyItem
    | c :: rest => do
      let (item, more) ← firstItem c rest
      match more with
      | none => return [item]
      | some rest => return item :: (← itemsWithin steps rest)

/-- The text between the brackets of a list. -/
def betweenBrackets (s : List Char) : Except QueryFault (List Char) :=
  let within (close : Char) (rest : List Char) : Except QueryFault (List Char) :=
    if rest.getLast? == some close then .ok rest.dropLast else .error (.listNotClosed close)
  match s with
  | '[' :: rest => within ']' rest
  | '(' :: rest => within ')' rest
  | _ => .error .expectedList

/-- The items of a literal list, the quotes of quoted ones kept. -/
def literalItems (s : List Char) : Except QueryFault (List String) := do
  let inner ← betweenBrackets (Text.trim s)
  itemsWithin (inner.length + 1) inner

/-- The items of a literal list; a fault shows the text as given. -/
def parseLiteralList (text : String) : Except IndexError (List String) :=
  (literalItems text.toList).mapError (IndexError.query text)

end SceneArchive.Query
