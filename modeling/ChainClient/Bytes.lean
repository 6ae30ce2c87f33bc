/-!
# Byte strings

Everything that is hashed, signed, sent or received is a list of bytes. Text becomes bytes as UTF-8 and a number becomes bytes as big-endian digits in base 256; both directions are given here, so the rest of the library never looks inside either representation.
-/

namespace ChainClient

-- Powers of numbers are those of the core library, also where the algebraic hierarchy brings its own.
attribute [local instance (high + 1)] instPowNat

abbrev Bytes := List UInt8

namespace Bytes

def ofText (text : String) : Bytes := text.toUTF8.data.toList

/-- The text whose UTF-8 bytes these are, if there is one. -/
def toText? (bytes : Bytes) : Option String := String.fromUTF8? ⟨bytes.toArray⟩

@[simp] theorem toText?_ofText (text : String) : toText? (ofText text) = some text := by
  simp only [toText?, ofText, Array.toArray_toList]
  unfold String.fromUTF8?
  rw [dif_pos (by exact text.isValidUTF8)]
  rfl

theorem ofText_injective {left right : String} (h : ofText left = ofText right) : left = right := by
  have := congrArg toText? h
  simpa using this

/-- The number with these big-endian digits in base 256. -/
def toNat (bytes : Bytes) : Nat := bytes.foldl (fun value byte => value * 256 + byte.toNat) 0

/-- The last `width` big-endian digits of a number in base 256. -/
def ofNat : Nat → Nat → Bytes
  | 0, _ => []
  | width + 1, value => UInt8.ofNat (value / 256 ^ width) :: ofNat width value

end Bytes

end ChainClient
