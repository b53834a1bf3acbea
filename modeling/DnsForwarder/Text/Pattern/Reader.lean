import DnsForwarder.Text.Alphanumeric
import DnsForwarder.Text.Blank
import DnsForwarder.Text.Digit
import DnsForwarder.Text.Pattern

/-!
# Reading regular expressions

A regular expression is read from left to right, with the groups that are still open at hand.
Closing braces cannot be part of one, and so opening braces stand for themselves in sets of
characters only.
-/

namespace DnsForwarder.Text.Pattern

/-- Passes over blanks and comments, which begin with a number sign and end with the line. -/
def skipPadding (inComment : Bool) : List Char → List Char
  | [] => []
  | c :: rest =>
    if inComment then skipPadding (c != '\n') rest
    else if c = '#' then skipPadding true rest
    else if isBlank c then skipPadding false rest
    else c :: rest

/-- What follows blanks and comments, where they do not count. -/
def trimmed (verbose : Bool) (text : List Char) : List Char :=
  if verbose then skipPadding false text else text

/-! ## Escapes -/

/-- The number that a fixed count of hexadecimal digits spells, and what follows them. -/
def hexadecimal? (verbose : Bool) (value : Nat) : Nat → List Char → Option (Nat × List Char)
  | 0, text => some (value, text)
  | _ + 1, [] => none
  | count + 1, c :: rest => do
    let digit ← digit? 16 c
    hexadecimal? verbose (value * 16 + digit) count (trimmed verbose rest)

/-- The character with the number that a fixed count of hexadecimal digits spells, and what follows
them. -/
def numbered? (verbose : Bool) (count : Nat) (text : List Char) :
    Option (PatternAtom × List Char) := do
  let (number, rest) ← hexadecimal? verbose 0 count (trimmed verbose text)
  if number.isValidChar then some (.literal ⟨Char.ofNat number, count = 2⟩, rest) else none

/-- A property by its letter, and what follows it. -/
def property? (verbose : Bool) (text : List Char) : Option (PatternAtom × List Char) :=
  match trimmed verbose text with
  | [] => none
  | letter :: rest =>
    if letter = '\\' ∨ letter = '\x7b' then none else some (.property, trimmed verbose rest)

/-- What a character after a backslash stands for by itself. All the signs stand for themselves. -/
def sign? (c : Char) : Option PatternAtom :=
  match c with
  | 'd' => some (.shorthand false)
  | 's' => some (.shorthand false)
  | 'w' => some (.shorthand false)
  | 'D' => some (.shorthand true)
  | 'S' => some (.shorthand true)
  | 'W' => some (.shorthand true)
  | 'A' => some .edge
  | 'z' => some .edge
  | 'b' => some .wordEdge
  | 'B' => some .wordEdge
  | '<' => some .wordEdge
  | '>' => some .wordEdge
  | 'a' => some (.literal ⟨Char.ofNat 0x07, false⟩)
  | 't' => some (.literal ⟨'\t', false⟩)
  | 'n' => some (.literal ⟨'\n', false⟩)
  | 'v' => some (.literal ⟨Char.ofNat 0x0B, false⟩)
  | 'f' => some (.literal ⟨Char.ofNat 0x0C, false⟩)
  | 'r' => some (.literal ⟨'\r', false⟩)
  | c => if c.toNat < 0x80 ∧ !c.isAlphanum then some (.literal ⟨c, false⟩) else none

/-- What stands after a backslash, and what follows it. -/
def escaped? (verbose : Bool) : List Char → Option (PatternAtom × List Char)
  | [] => none
  | c :: rest =>
    match c with
    | 'x' => numbered? verbose 2 rest
    | 'u' => numbered? verbose 4 rest
    | 'U' => numbered? verbose 8 rest
    | 'p' => property? verbose rest
    | 'P' => property? verbose rest
    | c => (sign? c).map (·, rest)

/-! ## Sets of characters -/

/-- The names of sets. -/
def setNames : List String :=
  ["alnum", "alpha", "ascii", "blank", "cntrl", "digit", "graph", "lower", "print",
    "punct", "space", "upper", "word", "xdigit"]

/-- A set by its name, after an opening bracket, and what follows it. -/
def namedSet? : List Char → Option (CharacterSet × List Char)
  | ':' :: rest =>
    let negated := rest.head? == some '^'
    let rest := if negated then rest.drop 1 else rest
    let name := rest.takeWhile (· != ':')
    match rest.drop name.length with
    | ':' :: ']' :: after =>
      if setNames.contains (String.ofList name) then some (.named negated, after) else none
    | _ => none
  | _ => none

/-- A single part of a set, and what follows it. -/
def setAtom? (verbose : Bool) : List Char → Option (PatternAtom × List Char)
  | [] => none
  | '\\' :: rest => escaped? verbose rest
  | c :: rest => some (.literal ⟨c, false⟩, rest)

/-- A single part as a set. -/
def setOfAtom? : PatternAtom → Option CharacterSet
  | .literal literal => some (.literal literal)
  | .shorthand negated => some (.shorthand negated)
  | .property => some .property
  | .any => none
  | .edge => none
  | .wordEdge => none

/-- The character after a hyphen that decides whether the hyphen makes a range. Where blanks do not
count they are passed over, and so is a number sign with the blanks after it, but not the rest of
its comment. -/
def deciding? (verbose : Bool) (text : List Char) : Option Char :=
  if verbose then
    match text.dropWhile isBlank with
    | '#' :: rest => (rest.dropWhile isBlank).head?
    | rest => rest.head?
  else text.head?

/-- The range from a character to the one that follows, and what follows that. -/
def range? (verbose : Bool) (first : PatternAtom) (text : List Char) :
    Option (CharacterSet × List Char) := do
  let (last, rest) ← setAtom? verbose (trimmed verbose text)
  match first, last with
  | .literal first, .literal last =>
    if first.character ≤ last.character then some (.range first last, rest) else none
  | _, _ => none

/-- A part of a set, which is perhaps a range, and what follows it. -/
def setPart? (verbose : Bool) (text : List Char) : Option (CharacterSet × List Char) := do
  let (first, rest) ← setAtom? verbose text
  let single := (setOfAtom? first).map (·, trimmed verbose rest)
  match trimmed verbose rest with
  | [] => none
  | '-' :: more =>
    let next := deciding? verbose more
    if next == some ']' || next == some '-' then single else range? verbose first more
  | _ => single

/-- A set whose closing bracket has not been reached. -/
structure OpenSet where
  negated : Bool := false
  /-- What stands before the last operator. -/
  left : Option CharacterSet := none
  /-- The parts after it, the last one first. -/
  parts : List CharacterSet := []
  /-- Whether nothing but hyphens have been read. -/
  isLeading : Bool := true

namespace OpenSet

/-- The set with one part more. -/
def add (current : OpenSet) (part : CharacterSet) : OpenSet :=
  { current with parts := part :: current.parts, isLeading := false }

/-- All that has been read. -/
def contents (current : OpenSet) : CharacterSet :=
  let right :=
    match current.parts with
    | [] => .empty
    | [part] => part
    | parts => .union parts.reverse
  match current.left with
  | none => right
  | some left => .combination left right

/-- The set after an operator. -/
def operated (current : OpenSet) : OpenSet :=
  { current with left := some current.contents, parts := [], isLeading := false }

/-- A set that has just been opened, and what follows. -/
def opened (verbose : Bool) (text : List Char) : OpenSet × List Char :=
  match trimmed verbose text with
  | '^' :: rest => ({ negated := true }, rest)
  | rest => ({}, rest)

end OpenSet

/-- Reads the rest of a set within others, and gives the outermost one with what follows it. Hyphens
in front of a set and a closing bracket in the very front belong to it. -/
def readSet (verbose : Bool) :
    Nat → OpenSet → List OpenSet → List Char → Option (CharacterSet × List Char)
  | 0, _, _, _ => none
  | fuel + 1, current, outer, text =>
    match trimmed verbose text with
    | [] => none
    | c :: rest =>
      if current.isLeading && c == '-' then
        let current := current.add (.literal ⟨'-', false⟩)
        readSet verbose fuel { current with isLeading := true } outer rest
      else if current.isLeading && current.parts.isEmpty && c == ']' then
        readSet verbose fuel (current.add (.literal ⟨']', false⟩)) outer rest
      else
        match c, rest with
        | ']', rest =>
          let set := .bracketed current.negated current.contents
          match outer with
          | [] => some (set, rest)
          | enclosing :: outer => readSet verbose fuel (enclosing.add set) outer rest
        | '[', rest =>
          match namedSet? rest with
          | some (set, rest) => readSet verbose fuel (current.add set) outer rest
          | none =>
            let (inner, rest) := OpenSet.opened verbose rest
            readSet verbose fuel inner (current :: outer) rest
        | '&', '&' :: rest => readSet verbose fuel current.operated outer rest
        | '-', '-' :: rest => readSet verbose fuel current.operated outer rest
        | '~', '~' :: rest => readSet verbose fuel current.operated outer rest
        | c, rest => do
          let (part, rest) ← setPart? verbose (c :: rest)
          readSet verbose fuel (current.add part) outer rest

/-- A set after its opening bracket, and what follows it. -/
def set? (verbose : Bool) (text : List Char) : Option (CharacterSet × List Char) :=
  let (current, rest) := OpenSet.opened verbose text
  readSet verbose (text.length + 1) current [] rest

/-! ## Groups -/

/-- What stands after an opening parenthesis. -/
inductive Opening where
  /-- Flags for what follows. -/
  | flags (change : FlagChange)
  /-- The begin of a group, perhaps with flags of its own or a name. -/
  | group (change : FlagChange) (name : Option String)

/-- The letters of the flags. -/
def flagLetters : List Char := ['i', 'm', 's', 'U', 'u', 'R', 'x']

/-- The change that letters of flags stand for. Those after a hyphen are cleared. -/
def change? (letters : List Char) : Option FlagChange :=
  if letters.all (fun c => (c = '-' ∨ c ∈ flagLetters) ∧ letters.count c = 1) ∧
      letters.getLast? ≠ some '-' then
    some ⟨letters.takeWhile (· != '-'), (letters.dropWhile (· != '-')).drop 1⟩
  else none

/-- Whether a group may have a name. -/
def isGroupName : List Char → Bool
  | [] => false
  | first :: rest =>
    (first == '_' || isAlphabetic first) &&
      rest.all fun c => c == '_' || c == '.' || c == '[' || c == ']' || isAlphanumeric c

/-- A group with a name, and what follows. -/
def namedGroup? (text : List Char) : Option (Opening × List Char) :=
  let name := text.takeWhile (· != '>')
  match text.drop name.length with
  | [] => none
  | _ :: rest => if isGroupName name then some (.group {} (String.ofList name), rest) else none

/-- Flags, alone or with a group, and what follows. -/
def flagged? (text : List Char) : Option (Opening × List Char) := do
  let letters := text.takeWhile fun c => c != ':' && c != ')'
  let change ← change? letters
  match text.drop letters.length with
  | ':' :: rest => some (.group change none, rest)
  | ')' :: rest => if letters.isEmpty then none else some (.flags change, rest)
  | _ => none

/-- What stands after an opening parenthesis, and what follows that. -/
def opening? : List Char → Option (Opening × List Char)
  | '?' :: 'P' :: '<' :: rest => namedGroup? rest
  | '?' :: '<' :: rest => namedGroup? rest
  | '?' :: rest => flagged? rest
  | rest => some (.group {} none, rest)

/-- A group whose end has not been reached; the last branches and parts come first. -/
structure OpenGroup where
  change : FlagChange := {}
  branches : List Pattern := []
  parts : List Pattern := []
  /-- Whether blanks and comments do not count after the group. -/
  verboseAfter : Bool := false

namespace OpenGroup

/-- The group with one part more. -/
def add (current : OpenGroup) (part : Pattern) : OpenGroup :=
  { current with parts := part :: current.parts }

/-- The group with its last branch at an end. -/
def branched (current : OpenGroup) : OpenGroup :=
  { current with branches := ofParts current.parts.reverse :: current.branches, parts := [] }

/-- All that has been read. -/
def contents (current : OpenGroup) : Pattern := ofBranches current.branched.branches.reverse

end OpenGroup

/-! ## The whole -/

/-- What has been read. -/
structure Reading where
  verbose : Bool := false
  names : List String := []
  current : OpenGroup := {}
  outer : List OpenGroup := []

namespace Reading

/-- One part more has been read. -/
def add (reading : Reading) (part : Pattern) : Reading :=
  { reading with current := reading.current.add part }

/-- A parenthesis has been opened. No two groups have the same name. -/
def opened? (reading : Reading) : Opening → Option Reading
  | .flags change =>
    let next := reading.add (.flags change)
    some { next with verbose := change.value 'x' reading.verbose }
  | .group change name =>
    if name.any reading.names.contains then none
    else
      some {
        verbose := change.value 'x' reading.verbose
        names := name.toList ++ reading.names
        current := { change, verboseAfter := reading.verbose }
        outer := reading.current :: reading.outer }

/-- A parenthesis has been closed. -/
def closed? (reading : Reading) : Option Reading :=
  let group := reading.current
  match reading.outer with
  | [] => none
  | enclosing :: outer =>
    some { reading with
      verbose := group.verboseAfter
      current := enclosing.add (.group group.change group.contents)
      outer }

/-- What has been read last is to be repeated. -/
def repeated? (reading : Reading) : Option Reading :=
  match reading.current.parts with
  | [] => none
  | part :: parts =>
    if part.isRepeatable then
      some { reading with current := { reading.current with parts := .repetition part :: parts } }
    else none

/-- Reads on at a character, and gives what follows. -/
def next? (reading : Reading) (c : Char) (rest : List Char) : Option (Reading × List Char) :=
  match c with
  | '(' => do
    let (opening, rest) ← opening? (trimmed reading.verbose rest)
    some (← reading.opened? opening, rest)
  | ')' => reading.closed?.map (·, rest)
  | '|' => some ({ reading with current := reading.current.branched }, rest)
  | '[' => do
    let (set, rest) ← set? reading.verbose rest
    some (reading.add (.oneOf set), rest)
  | '?' => reading.repeated?.map (·, lazy rest)
  | '*' => reading.repeated?.map (·, lazy rest)
  | '+' => reading.repeated?.map (·, lazy rest)
  | '\x7b' => none
  | '\\' => do
    let (part, rest) ← escaped? reading.verbose rest
    some (reading.add (.atom part), rest)
  | '.' => some (reading.add (.atom .any), rest)
  | '^' => some (reading.add (.atom .edge), rest)
  | '$' => some (reading.add (.atom .edge), rest)
  | c => some (reading.add (.atom (.literal ⟨c, false⟩)), rest)
where
  /-- What follows the question mark of a repetition that takes as little as it can. -/
  lazy : List Char → List Char
    | '?' :: rest => rest
    | rest => rest

/-- Reads to the end. -/
def finish : Nat → Reading → List Char → Option Pattern
  | 0, _, _ => none
  | fuel + 1, reading, text =>
    match trimmed reading.verbose text with
    | [] => if reading.outer.isEmpty then some reading.current.contents else none
    | c :: rest => do
      let (reading, rest) ← reading.next? c rest
      finish fuel reading rest

end Reading

/-- Reads a regular expression. -/
def ofText? (text : String) : Option Pattern :=
  Reading.finish (text.length + 1) {} text.toList

end DnsForwarder.Text.Pattern
