/-!
# Powers of two and of ten

The powers that number formats are made of, and the range of integers of sixty-four bits.
-/

namespace SceneArchive

/-- A power of two. -/
def twoTo (exponent : Nat) : Nat := Nat.pow 2 exponent

/-- A power of ten. -/
def tenTo (exponent : Nat) : Nat := Nat.pow 10 exponent

/-- True for the integers of signed sixty-four bits. -/
def fitsInt64 (n : Int) : Bool := -(twoTo 63 : Int) ≤ n && n < (twoTo 63 : Int)

end SceneArchive
