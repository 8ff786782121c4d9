import SceneArchive.Error
import SceneArchive.Text.Quoted

/-!
# Segments of a query

A query is cut at every `&` outside quoted text. A quote opens quoted text only where an operand
or an item of a list starts; elsewhere it is a character like any other.
-/

namespace SceneArchive.Query

/-- What the scan of a segment knows: the quote that is open, the brackets that are open, and the
last character that is not blank. -/
structure Scan where
  quote : Option Char
  depth : Nat
  last : Option Char
  deriving DecidableEq, Repr

namespace Scan

/-- The scan at the start of a segment. -/
def start : Scan := ⟨none, 0, none⟩

/-- Whether a quote here opens quoted text: behind an operator, a bracket, or a comma inside
brackets. -/
def opensOperand (s : Scan) : Bool :=
  match s.last with
  | some '=' | some '<' | some '>' | some '[' | some '(' => true
  | some ',' => decide (0 < s.depth)
  | _ => false

/-- The scan behind a character outside quoted text that does not end the segment. -/
def outside (s : Scan) (c : Char) : Scan :=
  let last := if Text.isBlank c then s.last else some c
  if Text.isQuote c && s.opensOperand then { s with quote := some c, last }
  else if c == '[' || c == '(' then { s with depth := s.depth + 1, last }
  else if c == ']' || c == ')' then { s with depth := s.depth - 1, last }
  else { s with last }

/-- The scan behind a character inside quoted text. -/
def inside (s : Scan) (quote c : Char) : Scan :=
  if c == quote then { s with quote := none, last := some c } else s

end Scan

/-- The segments of the text that follows a scan; `read` is the current segment so far, its last
character first. A quote that is never closed gives the segment that it is in. -/
def segmentsFrom (read : List Char) (scan : Scan) :
    List Char → Except (List Char) (List (List Char))
  | [] => if scan.quote.isSome then .error read.reverse else .ok [read.reverse]
  | c :: rest =>
    match scan.quote with
    | some quote => segmentsFrom (c :: read) (scan.inside quote c) rest
    | none =>
      if c == '&' then do
        let others ← segmentsFrom [] .start rest
        return read.reverse :: others
      else segmentsFrom (c :: read) (scan.outside c) rest

/-- The segments of a query, or the segment of a quote that is never closed. -/
def segments (s : List Char) : Except (List Char) (List (List Char)) := segmentsFrom [] .start s

end SceneArchive.Query
