import DnsForwarder.Toml.Scalar
import DnsForwarder.Toml.Table
import DnsForwarder.Toml.Parser

/-!
# Statements

A TOML document is a list of statements, one to a line: a header that opens a table, a header that
adds a table to an array, or a key with its value.
-/

namespace DnsForwarder.Toml

/-- One line of a document. -/
inductive Statement where
  /-- `[path]` -/
  | table (path : List String)
  /-- `[[path]]` -/
  | tableArray (path : List String)
  /-- `path = value`, where the last key of the path stands apart -/
  | entry (path : List String) (key : String) (value : Value)

open DnsForwarder.Toml.Parser

/-! ## Blanks and comments -/

/-- Space and tab. -/
def isSpace (c : Char) : Bool := c == ' ' || c == '\t'

/-- Characters that may not stand in strings and comments. -/
def isControl (c : Char) : Bool := (c.toNat < 0x20 && c != '\t') || c.toNat == 0x7F

/-- Passes over spaces and tabs. -/
def spaces : Parser Unit := do
  let _ ← takeWhile isSpace

/-- Passes over a line end, if there is one. -/
def newline : Parser Bool := do
  if (← ahead ['\n']) then
    skip 1
    pure true
  else if (← ahead ['\r', '\n']) then
    skip 2
    pure true
  else pure false

/-- Passes over spaces and a comment. -/
def trailing : Parser Unit := do
  spaces
  if (← peek) == some '#' then
    let _ ← takeWhile fun c => !isControl c

/-- Passes over what may stand between the parts of an array or of a table between braces. -/
def padding : Parser Unit := do
  let _ ← repeated do
    trailing
    if (← newline) then pure (some ()) else pure none

/-! ## Strings -/

/-- The quotation mark. -/
def quote : Char := Char.ofNat 0x22

/-- The apostrophe. -/
def apostrophe : Char := Char.ofNat 0x27

/-- The backslash. -/
def backslash : Char := Char.ofNat 0x5C

/-- A character by its number, written with a fixed count of hexadecimal digits. -/
def codePoint (count : Nat) : Parser Char := do
  let digits ← repeatedTimes count
  match Scalar.digits? 16 digits with
  | some values =>
    let number := Scalar.ofDigits 16 values
    if h : number.isValidChar then pure (Char.ofNatAux number h) else fail
  | none => fail
where
  /-- The next characters. -/
  repeatedTimes : Nat → Parser (List Char)
    | 0 => pure []
    | count + 1 => do
      match ← peek with
      | some c =>
        if (Text.digit? 16 c).isSome then
          skip 1
          let rest ← repeatedTimes count
          pure (c :: rest)
        else fail
      | none => fail

/-- What stands after a backslash. -/
def escaped : Parser Char := do
  let c ← peek
  skip 1
  match c with
  | some 'b' => pure (Char.ofNat 0x08)
  | some 't' => pure '\t'
  | some 'n' => pure '\n'
  | some 'f' => pure (Char.ofNat 0x0C)
  | some 'r' => pure '\r'
  | some 'e' => pure (Char.ofNat 0x1B)
  | some 'x' => codePoint 2
  | some 'u' => codePoint 4
  | some 'U' => codePoint 8
  | some c => if c = quote ∨ c = backslash then pure c else fail
  | none => fail

/-- The rest of a string on one line, after its first mark. -/
def lineString (mark : Char) (escapes : Bool) : Parser String := do
  let text ← repeated do
    match ← peek with
    | none => fail
    | some c =>
      if c = mark then pure none
      else if c = backslash ∧ escapes then
        skip 1
        let c ← escaped
        pure (some c)
      else if isControl c then fail
      else
        skip 1
        pure (some c)
  skip 1
  pure (String.ofList text)

/-- Passes over a line end after a backslash with all the blanks and line ends that follow. Nothing
else may stand on the line. -/
def joinLines : Parser Unit := do
  spaces
  if (← newline) then
    let _ ← repeated do
      spaces
      if (← newline) then pure (some ()) else pure none
  else fail

/-- The rest of a string of several lines, after its first three marks. Up to two marks may stand
before the three that end it. A line end right after the first marks does not count, and the others
stay as they are written. -/
def blockString (mark : Char) (escapes : Bool) : Parser String := do
  let _ ← newline
  let text ← repeated do
    match ← peek with
    | none => fail
    | some c =>
      if c = mark then
        if (← ahead [mark, mark, mark]) then pure none
        else
          skip 1
          pure (some [c])
      else if c = backslash ∧ escapes then
        skip 1
        match ← peek with
        | some next =>
          if isSpace next ∨ next = '\n' ∨ next = '\r' then
            joinLines
            pure (some [])
          else
            let c ← escaped
            pure (some [c])
        | none => fail
      else if (← ahead ['\r', '\n']) then
        skip 2
        pure (some ['\r', '\n'])
      else if c = '\n' then
        skip 1
        pure (some ['\n'])
      else if isControl c then fail
      else
        skip 1
        pure (some [c])
  skip 3
  let more ← extra 2
  pure (String.ofList (text.flatten ++ more))
where
  /-- Marks that belong to the text, at most `count`. -/
  extra : Nat → Parser (List Char)
    | 0 => pure []
    | count + 1 => do
      if (← peek) == some mark then
        skip 1
        let rest ← extra count
        pure (mark :: rest)
      else pure []

/-- A string that starts with a mark. -/
def string (mark : Char) : Parser String := do
  let escapes := mark == quote
  if (← ahead [mark, mark, mark]) then
    skip 3
    blockString mark escapes
  else
    skip 1
    lineString mark escapes

/-! ## Keys -/

/-- Characters of a key without quotes. -/
def isBare (c : Char) : Bool := c.isAlphanum || c == '_' || c == '-'

/-- One key. -/
def simpleKey : Parser String := do
  match ← peek with
  | some c =>
    if c = quote ∨ c = apostrophe then
      skip 1
      lineString c (c == quote)
    else
      let text ← takeWhile isBare
      if text.isEmpty then fail else pure (String.ofList text)
  | none => fail

/-- How deep arrays and tables may be nested, and how many keys may stand before the last one of a
dotted key. -/
abbrev maxDepth : Nat := 80

/-- Keys with dots between them. -/
def dottedKey : Parser (List String) := do
  let first ← simpleKey
  let rest ← repeated do
    spaces
    if (← peek) == some '.' then
      skip 1
      spaces
      let key ← simpleKey
      pure (some key)
    else pure none
  if maxDepth ≤ rest.length then fail else pure (first :: rest)

/-! ## Values -/

/-- Characters of a value without quotes. -/
def isUnquoted (c : Char) : Bool :=
  c.isAlphanum || c == '_' || c == '-' || c == '+' || c == '.' || c == ':'

/-- A value without quotes. A space may stand between a date and a time. -/
def unquoted : Parser Value := do
  let text ← takeWhile isUnquoted
  let more ←
    if Scalar.date? text == some [] then
      match ← peek, ← peekAt 1 with
      | some ' ', some c =>
        if c.isDigit then
          skip 1
          let time ← takeWhile isUnquoted
          pure (' ' :: time)
        else pure []
      | _, _ => pure []
    else pure []
  match Scalar.value? (text ++ more) with
  | some value => pure value
  | none => fail

/-- A comma, if another item may follow it. -/
def comma : Parser Bool := do
  if (← peek) == some ',' then
    skip 1
    pure true
  else pure false

/-- Items with commas between them and the mark that ends them. A comma may follow the last one, and
lines may be broken before and after each. -/
def listed {α : Type} (closing : Char) (item : Parser α) : Parser (List α) := do
  padding
  let items ← repeated do
    if (← peek) == some closing then pure none
    else
      let value ← item
      padding
      if (← comma) then
        padding
        pure (some value)
      else if (← peek) == some closing then pure (some value)
      else fail
  expect closing
  pure items

/-- The brace that ends a table between braces. -/
def closingBrace : Char := Char.ofNat 0x7D

/-- The brace that starts a table between braces. -/
def openingBrace : Char := Char.ofNat 0x7B

/-- A key with its value. Around the equals sign stands what `gap` reads. -/
def keyValue (gap : Parser Unit) (item : Parser Value) : Parser (List String × String × Value) := do
  let keys ← dottedKey
  gap
  expect '='
  gap
  let value ← item
  match keys.getLast? with
  | some key => pure (keys.dropLast, key, value)
  | none => fail

/-- The entries of a table between braces, after its first brace. -/
def inlineEntries (item : Parser Value) : Parser Entries := do
  let entries ← listed closingBrace (keyValue padding item)
  let table := entries.foldlM
    (fun entries (path, key, value) => Entries.insert? entries path key value) []
  match table with
  | some entries => pure entries
  | none => fail

/-- A value. Arrays and tables hold what `item` reads; without it they may not stand here. -/
def valueOf (item : Option (Parser Value)) : Parser Value := do
  match ← peek with
  | none => fail
  | some c =>
    if c = quote ∨ c = apostrophe then
      let text ← string c
      pure (.string text)
    else if c = '[' then
      match item with
      | none => fail
      | some item =>
        skip 1
        let items ← listed ']' item
        pure (.array false items)
    else if c = openingBrace then
      match item with
      | none => fail
      | some item =>
        skip 1
        let entries ← inlineEntries item
        pure (.table .inline entries)
    else unquoted

/-- A value in which arrays and tables are nested to a depth. -/
def value : (depth : Nat) → Parser Value
  | 0 => valueOf none
  | depth + 1 => valueOf (some (value depth))

/-! ## Lines -/

/-- The keys between the brackets of a header. -/
def headerPath : Parser (List String) := do
  spaces
  let path ← dottedKey
  spaces
  pure path

/-- A statement at the start of a line. -/
def statement : Parser Statement := do
  if (← ahead ['[', '[']) then
    skip 2
    let path ← headerPath
    expect ']'
    expect ']'
    pure (.tableArray path)
  else if (← ahead ['[']) then
    skip 1
    let path ← headerPath
    expect ']'
    pure (.table path)
  else
    let (path, key, value) ← keyValue spaces (value maxDepth)
    pure (.entry path key value)

/-- A line: a statement or none. Nothing is left at the end of the text. -/
def line : Parser (Option (Option Statement)) := do
  spaces
  match ← peek with
  | none => pure none
  | some c =>
    let found ←
      if c = '#' ∨ c = '\n' ∨ c = '\r' then pure none
      else
        let s ← statement
        pure (some s)
    trailing
    if (← newline) then pure (some found)
    else if (← peek).isNone then pure (some found)
    else fail

/-- The statements of a text. A byte order mark in front is passed over. -/
def statements (text : String) : Except SyntaxFault (List Statement) :=
  let characters := text.toList
  let characters :=
    if characters.head? == some (Char.ofNat 0xFEFF) then characters.drop 1 else characters
  (repeated line characters.toArray 0).map fun (lines, _) => lines.filterMap id

end DnsForwarder.Toml
