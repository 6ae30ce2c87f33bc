/-!
# Reasons

A message that reports why something could not be read quotes the reason as one line. A position in a document at the end of that line is not part of the reason.
-/

namespace ChainClient.Text

/-- The characters without the digits at their end, if there are any. -/
private def dropDigits? (reversed : List Char) : Option (List Char) :=
  if (reversed.head?.map Char.isDigit).getD false then some (reversed.dropWhile Char.isDigit) else none

/-- The characters without a given end, both in reverse. -/
private def dropEnd? : List Char → List Char → Option (List Char)
  | [], reversed => some reversed
  | c :: ending, d :: reversed => if c = d then dropEnd? ending reversed else none
  | _ :: _, [] => none

private def dropPosition? (reversed : List Char) : Option (List Char) := do
  let rest ← dropDigits? reversed
  let rest ← dropEnd? " column ".toList.reverse rest
  let rest ← dropDigits? rest
  dropEnd? " at line ".toList.reverse rest

/-- The first line, without a position at its end. -/
def reason (text : String) : String :=
  let line := text.toList.takeWhile (· ≠ '\n')
  match dropPosition? line.reverse with
  | some rest => String.ofList rest.reverse
  | none => String.ofList line

end ChainClient.Text
