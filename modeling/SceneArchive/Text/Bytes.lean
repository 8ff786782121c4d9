/-!
# Bytes as text

Reads every list of bytes as a text. The bytes of characters are read as such; each longest run of
bytes that begins a character without completing one, and each byte that begins none, becomes the
sign of replacement.
-/

namespace SceneArchive.Text

/-- The sign that stands for bytes that are no character. -/
def replacement : Char := '\ufffd'

/-- What the first byte of a character tells: how many bytes follow, the range of the first of them,
and the least of all first bytes of so long characters. -/
structure Lead where
  following : Nat
  low : Nat
  high : Nat
  base : Nat
  deriving Repr

/-- What a byte tells that begins a character of several bytes. -/
def lead? (byte : Nat) : Option Lead :=
  if byte < 0xC2 then none
  else if byte < 0xE0 then some ⟨1, 0x80, 0xBF, 0xC0⟩
  else if byte < 0xF0 then
    some ⟨2, if byte = 0xE0 then 0xA0 else 0x80, if byte = 0xED then 0x9F else 0xBF, 0xE0⟩
  else if byte < 0xF5 then
    some ⟨3, if byte = 0xF0 then 0x90 else 0x80, if byte = 0xF4 then 0x8F else 0xBF, 0xF0⟩
  else none

/-- The character of which so many bytes are missing, the next of them in a range, and what follows
it. The number of the character is `number` up to there. -/
def readFollowing : Nat → Nat → Nat → Nat → List UInt8 → Char × List UInt8
  | 0, _, _, number, rest => (Char.ofNat number, rest)
  | _ + 1, _, _, _, [] => (replacement, [])
  | missing + 1, low, high, number, byte :: rest =>
    if low ≤ byte.toNat ∧ byte.toNat ≤ high then
      readFollowing missing 0x80 0xBF (64 * number + (byte.toNat - 0x80)) rest
    else (replacement, byte :: rest)

theorem length_readFollowing_le (missing low high number : Nat) (bytes : List UInt8) :
    (readFollowing missing low high number bytes).2.length ≤ bytes.length := by
  fun_induction readFollowing missing low high number bytes <;> simp_all <;> omega

/-- The text of bytes. -/
def ofBytes : List UInt8 → List Char
  | [] => []
  | byte :: rest =>
    if byte < 0x80 then Char.ofNat byte.toNat :: ofBytes rest
    else
      match lead? byte.toNat with
      | none => replacement :: ofBytes rest
      | some lead =>
        have := length_readFollowing_le lead.following lead.low lead.high
          (byte.toNat - lead.base) rest
        let read := readFollowing lead.following lead.low lead.high (byte.toNat - lead.base) rest
        read.1 :: ofBytes read.2
termination_by bytes => bytes.length
decreasing_by all_goals grind

end SceneArchive.Text
