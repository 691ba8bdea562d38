/-
# Reading TOML text

`Toml.read?` reads a document line by line: blank lines and comments, headers of tables and of
elements of lists of tables, and keys with values.  The parts return what they read and the text
that is left.

Lines end in a line feed, with a carriage return before it or not; inside a string of several
lines both are read as a line feed.  Control characters other than the tab are refused
everywhere.  Keys have fewer than `depthLimit` parts, and arrays and inline tables nest less
than that deep.
-/
import FieldRules.Toml.Scalar

namespace FieldRules

namespace Toml

/-- The first depth that is refused. -/
def depthLimit : Nat := 80

/-! ## 1. Blanks, comments and ends of lines -/

/-- The blanks within a line. -/
def isSpace (c : Char) : Bool := c = ' ' || c = '\t'

/-- The text without the blanks at its start. -/
def skipSpaces (cs : List Char) : List Char := cs.dropWhile isSpace

/-- Whether a character may stand in a comment or, but for quotes, in a string. -/
def isTextChar (c : Char) : Bool := c = '\t' || 0x20 ≤ c.toNat && c.toNat ≠ 0x7F

/-- The text after a line break at its start. -/
def lineBreak? : List Char → Option (List Char)
  | '\n' :: rest => some rest
  | '\r' :: '\n' :: rest => some rest
  | _ => none

/-- The text after the end of a line, where blanks and a comment may stand before the break. -/
def lineEnd? (cs : List Char) : Option (List Char) :=
  let rest :=
    match skipSpaces cs with
    | '#' :: rest => rest.dropWhile isTextChar
    | rest => rest
  match rest with
  | [] => some []
  | rest => lineBreak? rest

/-- Skips blanks, line breaks and comments inside an array. -/
def skipLines (inComment : Bool) : List Char → Option (List Char)
  | [] => some []
  | '\n' :: rest => skipLines false rest
  | '\r' :: '\n' :: rest => skipLines false rest
  | c :: rest =>
    if inComment then
      if isTextChar c then skipLines true rest else none
    else if isSpace c then skipLines false rest
    else if c = '#' then skipLines true rest
    else some (c :: rest)

/-! ## 2. Strings -/

/-- The character of a number, unless it is a surrogate or beyond the last character. -/
def charOf? (n : Nat) : Option Char :=
  if n < 0xD800 ∨ 0xDFFF < n ∧ n < 0x110000 then some (Char.ofNat n) else none

/-- The character that hexadecimal digits stand for. -/
def hexChar? (cs : List Char) : Option Char :=
  if cs.all (isDigitOf 16) then charOf? (digitsValue 16 cs) else none

/-- The character that a backslash and one letter stand for. -/
def letterEscape? : Char → Option Char
  | '"' => some '"'
  | '\\' => some '\\'
  | 'b' => some '\x08'
  | 'f' => some '\x0c'
  | 'n' => some '\n'
  | 'r' => some '\r'
  | 't' => some '\t'
  | _ => none

/-- Puts a character before the string that was read. -/
def before (c : Char) (read : Option (List Char × List Char)) : Option (List Char × List Char) :=
  read.map fun (s, left) => (c :: s, left)

/-- The rest of a basic string after its opening quote. -/
def basic? : List Char → Option (List Char × List Char)
  | [] => none
  | '"' :: rest => some ([], rest)
  | '\\' :: 'u' :: a :: b :: c :: d :: rest =>
    (hexChar? [a, b, c, d]).bind fun x => before x (basic? rest)
  | '\\' :: 'U' :: a :: b :: c :: d :: e :: f :: g :: h :: rest =>
    (hexChar? [a, b, c, d, e, f, g, h]).bind fun x => before x (basic? rest)
  | '\\' :: c :: rest => (letterEscape? c).bind fun x => before x (basic? rest)
  | c :: rest => if isTextChar c then before c (basic? rest) else none

/-- The rest of a literal string after its opening quote. -/
def literal? : List Char → Option (List Char × List Char)
  | [] => none
  | '\'' :: rest => some ([], rest)
  | c :: rest => if isTextChar c then before c (literal? rest) else none

/-- Whether only blanks stand before the next line break. -/
def endsLine (cs : List Char) : Bool := (lineBreak? (skipSpaces cs)).isSome

/-- The rest of a basic string of several lines.  `skipping` is set after a backslash at the end
of a line: blanks and line breaks up to the next character do not count.  Up to two quotes may
stand before the closing three. -/
def basicLines? (skipping : Bool) : List Char → Option (List Char × List Char)
  | [] => none
  | '"' :: '"' :: '"' :: '"' :: '"' :: rest => some (['"', '"'], rest)
  | '"' :: '"' :: '"' :: '"' :: rest => some (['"'], rest)
  | '"' :: '"' :: '"' :: rest => some ([], rest)
  | '\r' :: '\n' :: rest =>
    if skipping then basicLines? true rest else before '\n' (basicLines? false rest)
  | '\n' :: rest =>
    if skipping then basicLines? true rest else before '\n' (basicLines? false rest)
  | '\\' :: 'u' :: a :: b :: c :: d :: rest =>
    (hexChar? [a, b, c, d]).bind fun x => before x (basicLines? false rest)
  | '\\' :: 'U' :: a :: b :: c :: d :: e :: f :: g :: h :: rest =>
    (hexChar? [a, b, c, d, e, f, g, h]).bind fun x => before x (basicLines? false rest)
  | '\\' :: c :: rest =>
    match letterEscape? c with
    | some x => before x (basicLines? false rest)
    | none =>
      if c = '\n' then basicLines? true rest
      else if (isSpace c || c = '\r') && endsLine (c :: rest) then basicLines? true rest
      else none
  | c :: rest =>
    if skipping && isSpace c then basicLines? true rest
    else if isTextChar c then before c (basicLines? false rest)
    else none

/-- The rest of a literal string of several lines. -/
def literalLines? : List Char → Option (List Char × List Char)
  | [] => none
  | '\'' :: '\'' :: '\'' :: '\'' :: '\'' :: rest => some (['\'', '\''], rest)
  | '\'' :: '\'' :: '\'' :: '\'' :: rest => some (['\''], rest)
  | '\'' :: '\'' :: '\'' :: rest => some ([], rest)
  | '\r' :: '\n' :: rest => before '\n' (literalLines? rest)
  | '\n' :: rest => before '\n' (literalLines? rest)
  | c :: rest => if isTextChar c then before c (literalLines? rest) else none

/-- The text without a line break at its start. -/
def dropBreak (cs : List Char) : List Char := (lineBreak? cs).getD cs

/-! ## 3. Keys -/

/-- The characters of a key without quotes. -/
def isBareChar (c : Char) : Bool := c.isAlphanum || c = '_' || c = '-'

/-- One part of a key. -/
def keyPart? (cs : List Char) : Option (String × List Char) :=
  match cs with
  | '"' :: rest => (basic? rest).map fun (s, left) => (String.ofList s, left)
  | '\'' :: rest => (literal? rest).map fun (s, left) => (String.ofList s, left)
  | _ =>
    let part := cs.takeWhile isBareChar
    if part.isEmpty then none else some (String.ofList part, cs.dropWhile isBareChar)

/-- The parts of a key, with the blanks around them; `fuel` bounds their number. -/
def keyParts? : Nat → List Char → Option (List String × List Char)
  | 0, _ => none
  | fuel + 1, cs =>
    match keyPart? (skipSpaces cs) with
    | none => none
    | some (part, rest) =>
      match skipSpaces rest with
      | '.' :: rest => (keyParts? fuel rest).map fun (parts, left) => (part :: parts, left)
      | rest => some ([part], rest)

/-- A key, of fewer parts than the limit. -/
def key? (cs : List Char) : Option (List String × List Char) := keyParts? (depthLimit - 1) cs

/-! ## 4. Values -/

/-- The characters of a value without quotes and brackets. -/
def isScalarChar (c : Char) : Bool := isBareChar c || c = '+' || c = '.' || c = ':'

/-- A value without quotes and brackets.  A blank may stand between a date and a time. -/
def readScalar? (cs : List Char) : Option (Toml × List Char) :=
  let first := cs.takeWhile isScalarChar
  match cs.dropWhile isScalarChar with
  | ' ' :: d :: rest =>
    if (date? first).isSome && first.length = 10 && d.isDigit then
      (scalar? (first ++ ' ' :: (d :: rest).takeWhile isScalarChar)).map fun v =>
        (v, (d :: rest).dropWhile isScalarChar)
    else (scalar? first).map fun v => (v, ' ' :: d :: rest)
  | left => (scalar? first).map fun v => (v, left)

/-- A string as a value. -/
def asString (read : Option (List Char × List Char)) : Option (Toml × List Char) :=
  read.map fun (s, left) => (.string (String.ofList s), left)

mutual

/-- One value at the start of the text, inside `depth` arrays and inline tables. -/
def readValue? : Nat → Nat → List Char → Option (Toml × List Char)
  | 0, _, _ => none
  | fuel + 1, depth, cs =>
    match cs with
    | '"' :: '"' :: '"' :: rest => asString (basicLines? false (dropBreak rest))
    | '"' :: rest => asString (basic? rest)
    | '\'' :: '\'' :: '\'' :: rest => asString (literalLines? (dropBreak rest))
    | '\'' :: rest => asString (literal? rest)
    | '[' :: rest =>
      if depth + 1 < depthLimit then
        (readItems? fuel (depth + 1) rest).map fun (items, left) => (.array items, left)
      else none
    | '\x7b' :: rest =>
      if depth + 1 < depthLimit then
        match skipSpaces rest with
        | '\x7d' :: rest => some (.table [], rest)
        | rest =>
          (readFields? fuel (depth + 1) [] rest).map fun (fields, left) =>
            (.table (Draft.finishFields fields), left)
      else none
    | cs => readScalar? cs

/-- The items of an array and its end; a comma may stand after the last one. -/
def readItems? : Nat → Nat → List Char → Option (List Toml × List Char)
  | 0, _, _ => none
  | fuel + 1, depth, cs =>
    match skipLines false cs with
    | none => none
    | some (']' :: rest) => some ([], rest)
    | some rest =>
      match readValue? fuel depth rest with
      | none => none
      | some (item, rest) =>
        match skipLines false rest with
        | some (']' :: rest) => some ([item], rest)
        | some (',' :: rest) =>
          (readItems? fuel depth rest).map fun (items, left) => (item :: items, left)
        | _ => none

/-- The fields of an inline table, added to those before, and its end. -/
def readFields? : Nat → Nat → Fields → List Char → Option (Fields × List Char)
  | 0, _, _, _ => none
  | fuel + 1, depth, fields, cs =>
    match key? cs with
    | some (key, '=' :: rest) =>
      match readValue? fuel depth (skipSpaces rest) with
      | none => none
      | some (v, rest) =>
        match Draft.set key v fields with
        | none => none
        | some fields =>
          match skipSpaces rest with
          | '\x7d' :: rest => some (fields, rest)
          | ',' :: rest => readFields? fuel depth fields rest
          | _ => none
    | _ => none

end

/-- A value at the start of a text, outside every array and inline table. -/
def value? (cs : List Char) : Option (Toml × List Char) := readValue? (2 * cs.length + 2) 0 cs

/-! ## 5. Documents -/

/-- A document in the making, and the table that keys go to. -/
structure Reading where
  table : List String
  fields : Fields

namespace Reading

/-- Takes a header; `isElement` tells the header of an element of a list of tables. -/
def header (isElement : Bool) (key : List String) (r : Reading) : Option Reading :=
  match key.getLast? with
  | none => none
  | some last =>
    let act := if isElement then Draft.openElement last else Draft.openTable last
    (Draft.change act key.dropLast r.fields).map fun fields => ⟨key, fields⟩

/-- Takes a key with its value. -/
def keyValue (key : List String) (v : Toml) (r : Reading) : Option Reading :=
  (Draft.change (Draft.set key v) r.table r.fields).map fun fields => { r with fields := fields }

end Reading

/-- One line that is not blank: what the document becomes and the text after the line. -/
def readLine? (r : Reading) (cs : List Char) : Option (Reading × List Char) :=
  match cs with
  | '[' :: '[' :: rest =>
    match key? rest with
    | some (key, ']' :: ']' :: rest) => do
      return (← r.header true key, ← lineEnd? rest)
    | _ => none
  | '[' :: rest =>
    match key? rest with
    | some (key, ']' :: rest) => do
      return (← r.header false key, ← lineEnd? rest)
    | _ => none
  | _ =>
    match key? cs with
    | some (key, '=' :: rest) => do
      let (v, rest) ← value? (skipSpaces rest)
      return (← r.keyValue key v, ← lineEnd? rest)
    | _ => none

/-- The lines of a document; `fuel` bounds their number. -/
def readLines? : Nat → Reading → List Char → Option Reading
  | 0, _, _ => none
  | fuel + 1, r, cs =>
    match skipSpaces cs with
    | [] => some r
    | '#' :: rest => (lineEnd? ('#' :: rest)).bind (readLines? fuel r)
    | '\n' :: rest => readLines? fuel r rest
    | '\r' :: rest => (lineBreak? ('\r' :: rest)).bind (readLines? fuel r)
    | rest =>
      match readLine? r rest with
      | none => none
      | some (r, rest) => readLines? fuel r rest

/-- The fields of a document, if the text is one.  A byte order mark may stand at its start. -/
def read? (text : String) : Option (List (String × Toml)) :=
  let cs :=
    match text.toList with
    | '\uFEFF' :: rest => rest
    | cs => cs
  (readLines? (cs.length + 1) ⟨[], []⟩ cs).map fun r => Draft.finishFields r.fields

end Toml

end FieldRules
