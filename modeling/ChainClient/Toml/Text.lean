import ChainClient.Text.Number

/-!
# Keys and texts of a document

Texts stand in double quotes, where a backslash starts an escape, or in single quotes, where every character counts as it is. Three quotes open a text of several lines; a line end right after them is dropped, and so are blanks and line ends after a backslash at the end of a line. Up to two quotes may stand inside such a text and right before its end.
-/

namespace ChainClient.Toml

def isSpace (c : Char) : Bool := c == ' ' || c == '\t'

def skipSpaces (cs : List Char) : List Char := cs.dropWhile isSpace

/-- A line ends with a line feed, alone or after a carriage return. -/
def newline? : List Char → Option (List Char)
  | '\n' :: cs => some cs
  | '\r' :: '\n' :: cs => some cs
  | _ => none

/-- Everything but control characters, the tabulator apart. -/
def isPlain (c : Char) : Bool := c == '\t' || (0x20 ≤ c.toNat && c.toNat ≠ 0x7f)

def skipComment : List Char → List Char
  | '#' :: cs => cs.dropWhile isPlain
  | cs => cs

/-! ## Escapes -/

private def hexDigits? (count : Nat) (cs : List Char) : Option (Nat × List Char) :=
  let ds := cs.take count
  if ds.length = count ∧ ds.all fun c => c.isDigit || ('a' ≤ c && c ≤ 'f') || ('A' ≤ c && c ≤ 'F') then
    some (ds.foldl (fun n c => 16 * n + (if c.isDigit then c.toNat - 48 else c.toLower.toNat - 87)) 0, cs.drop count)
  else none

private def codePoint? (count : Nat) (cs : List Char) : Option (Char × List Char) := do
  let (n, rest) ← hexDigits? count cs
  if n.isValidChar then some (Char.ofNat n, rest) else none

/-- The character of an escape, from what follows the backslash. -/
private def escape? : List Char → Option (Char × List Char)
  | 'b' :: cs => some ('\x08', cs)
  | 't' :: cs => some ('\t', cs)
  | 'n' :: cs => some ('\n', cs)
  | 'f' :: cs => some ('\x0c', cs)
  | 'r' :: cs => some ('\r', cs)
  | '"' :: cs => some ('"', cs)
  | '\\' :: cs => some ('\\', cs)
  | 'u' :: cs => codePoint? 4 cs
  | 'U' :: cs => codePoint? 8 cs
  | _ => none

def skipLines : Nat → List Char → List Char
  | 0, cs => cs
  | bound + 1, cs =>
    match newline? (skipSpaces cs) with
    | some rest => skipLines bound rest
    | none => skipSpaces cs

/-- What follows a backslash at the end of a line. -/
private def foldedLine? (cs : List Char) : Option (List Char) :=
  (newline? (skipSpaces cs)).map fun rest => skipLines rest.length rest

/-! ## Texts -/

/-- The rest of a text in double quotes. Each step takes a character, so the bound is never met. -/
private def basic? : Nat → List Char → Option (List Char × List Char)
  | 0, _ => none
  | _, '"' :: cs => some ([], cs)
  | bound + 1, '\\' :: cs => do
    let (c, cs) ← escape? cs
    let (text, rest) ← basic? bound cs
    return (c :: text, rest)
  | bound + 1, c :: cs =>
    if isPlain c then (basic? bound cs).map fun (text, rest) => (c :: text, rest) else none
  | _, [] => none

/-- The end of a text of several lines, with the one or two quotes that may stand before it. -/
private def lastQuotes? (quote : Char) (cs : List Char) : Option (List Char × List Char) :=
  let quotes := (cs.takeWhile (· == quote)).length
  if quotes < 3 then none
  else
    let inside := min (quotes - 3) 2
    some (List.replicate inside quote, cs.drop (inside + 3))

/-- The rest of a text of several lines; `escapes` tells whether a backslash starts an escape. -/
private def multiline? (quote : Char) (escapes : Bool) : Nat → List Char → Option (List Char × List Char)
  | 0, _ => none
  | _, [] => none
  | bound + 1, c :: cs =>
    let continued (text : List Char) (cs : List Char) : Option (List Char × List Char) :=
      (multiline? quote escapes bound cs).map fun (more, rest) => (text ++ more, rest)
    if c = quote then
      match lastQuotes? quote (c :: cs) with
      | some found => some found
      | none => continued [c] cs
    else if c = '\\' ∧ escapes then
      match foldedLine? cs with
      | some cs => continued [] cs
      | none => (escape? cs).bind fun (c, cs) => continued [c] cs
    else match newline? (c :: cs) with
      | some cs => continued ['\n'] cs
      | none => if isPlain c then continued [c] cs else none

private def openedMultiline? (quote : Char) (escapes : Bool) (cs : List Char) : Option (List Char × List Char) :=
  multiline? quote escapes (cs.length + 1) ((newline? cs).getD cs)

private def literal? (cs : List Char) : Option (List Char × List Char) :=
  match cs.dropWhile fun c => c != '\'' && isPlain c with
  | '\'' :: rest => some (cs.takeWhile fun c => c != '\'' && isPlain c, rest)
  | _ => none

private def shortText? : List Char → Option (List Char × List Char)
  | '"' :: cs => basic? (cs.length + 1) cs
  | '\'' :: cs => literal? cs
  | _ => none

def text? : List Char → Option (List Char × List Char)
  | '"' :: '"' :: '"' :: cs => openedMultiline? '"' true cs
  | '\'' :: '\'' :: '\'' :: cs => openedMultiline? '\'' false cs
  | cs => shortText? cs

/-! ## Keys -/

def isBareKeyChar (c : Char) : Bool := c.isAlphanum || c == '-' || c == '_'

private def simpleKey? (cs : List Char) : Option (String × List Char) :=
  match shortText? cs with
  | some (key, rest) => some (String.ofList key, rest)
  | none =>
    let key := cs.takeWhile isBareKeyChar
    if key.isEmpty then none else some (String.ofList key, cs.dropWhile isBareKeyChar)

/-- Keys with dots between them and blanks around each; the last one apart from those in front of it. -/
def dottedKey? : Nat → List Char → Option ((List String × String) × List Char)
  | 0, _ => none
  | bound + 1, cs => do
    let (key, rest) ← simpleKey? (skipSpaces cs)
    match skipSpaces rest with
    | '.' :: rest =>
      let ((keys, last), rest) ← dottedKey? bound rest
      return ((key :: keys, last), rest)
    | rest => return (([], key), rest)

end ChainClient.Toml
