/-!
# Blank characters

The characters with the Unicode property `White_Space`, and the trimming of a text on both
sides. Every reader of this library that allows blanks around a value uses this class.

* `trim_of_isBlank_eq_false`: a text whose first and last characters are not blank is its own
  trimmed form.
-/

namespace SceneArchive.Text

/-- The twenty-five code points with the Unicode property `White_Space`. -/
def isBlank (c : Char) : Bool :=
  let n := c.toNat
  (0x9 ≤ n && n ≤ 0xD) || n == 0x20 || n == 0x85 || n == 0xA0 || n == 0x1680 ||
    (0x2000 ≤ n && n ≤ 0x200A) || n == 0x2028 || n == 0x2029 || n == 0x202F || n == 0x205F ||
    n == 0x3000

/-- The text from its first character that is not blank on. -/
def trimStart (s : List Char) : List Char := s.dropWhile isBlank

/-- The text up to its last character that is not blank. -/
def trimEnd (s : List Char) : List Char := (s.reverse.dropWhile isBlank).reverse

/-- The text without the blanks around it. -/
def trim (s : List Char) : List Char := trimEnd (trimStart s)

/-- The string without the blanks around it. -/
def trimmed (s : String) : String := String.ofList (trim s.toList)

/-- True for a string of blanks, the empty string among them. -/
def allBlank (s : String) : Bool := s.toList.all isBlank

@[simp]
theorem trim_nil : trim [] = [] := rfl

theorem dropWhile_eq_self {s : List Char} (h : ∀ c ∈ s.head?, isBlank c = false) :
    s.dropWhile isBlank = s := by
  cases s with
  | nil => rfl
  | cons c r => simp [h c (by simp)]

theorem trim_of_isBlank_eq_false {s : List Char} (first : ∀ c ∈ s.head?, isBlank c = false)
    (last : ∀ c ∈ s.getLast?, isBlank c = false) : trim s = s := by
  unfold trim trimEnd trimStart
  rw [dropWhile_eq_self first, dropWhile_eq_self (by simpa using last), List.reverse_reverse]

end SceneArchive.Text
