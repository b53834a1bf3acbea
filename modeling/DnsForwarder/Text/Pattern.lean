/-!
# Regular expressions

What regular expressions are made of, how deeply they are nested, and which of them can be compiled.
They are kept only as far as that matters: not what a class is called, for instance, or how often
something may be repeated.
-/

namespace DnsForwarder.Text

/-- How a regular expression is to be taken at some place. -/
structure PatternMode where
  ignoresCase : Bool := false
  unicode : Bool := true
  /-- Blanks and comments do not count. -/
  verbose : Bool := false
deriving DecidableEq, Repr

/-- Flags that are set and flags that are cleared, by their letters. -/
structure FlagChange where
  enabled : List Char := []
  disabled : List Char := []
deriving DecidableEq, Repr

namespace FlagChange

/-- Whether a flag is set after a change. -/
def value (change : FlagChange) (flag : Char) (before : Bool) : Bool :=
  change.enabled.contains flag || before && !change.disabled.contains flag

/-- The mode after a change. -/
def apply (change : FlagChange) (mode : PatternMode) : PatternMode where
  ignoresCase := change.value 'i' mode.ignoresCase
  unicode := change.value 'u' mode.unicode
  verbose := change.value 'x' mode.verbose

theorem apply_nil (mode : PatternMode) : apply {} mode = mode := by
  cases mode
  simp [apply, value]

end FlagChange

/-- A character that stands for itself. -/
structure PatternCharacter where
  character : Char
  /-- Whether it is written as an octet, with two hexadecimal digits. -/
  isOctet : Bool := false
deriving DecidableEq, Repr

/-- The smallest parts of a regular expression. -/
inductive PatternAtom where
  | literal (literal : PatternCharacter)
  /-- Any character. -/
  | any
  /-- The begin or the end of a text or of a line. -/
  | edge
  /-- The begin, the end or the inside of a word, or neither of them. -/
  | wordEdge
  /-- Digits, blanks or the characters of words, or all others. -/
  | shorthand (negated : Bool)
  /-- The characters with a property, or all others. -/
  | property
deriving DecidableEq, Repr

/-- A set of characters. -/
inductive CharacterSet where
  | empty
  | literal (literal : PatternCharacter)
  | range (first last : PatternCharacter)
  /-- A set with a name, or its complement. -/
  | named (negated : Bool)
  | shorthand (negated : Bool)
  | property
  /-- A set in brackets, or its complement. -/
  | bracketed (negated : Bool) (inner : CharacterSet)
  | union (parts : List CharacterSet)
  /-- The intersection of two sets, or one of their differences. -/
  | combination (left right : CharacterSet)
deriving Repr

/-- A regular expression. -/
inductive Pattern where
  | empty
  /-- What follows is to be taken in another way. -/
  | flags (change : FlagChange)
  | atom (atom : PatternAtom)
  | oneOf (set : CharacterSet)
  | repetition (inner : Pattern)
  | group (change : FlagChange) (inner : Pattern)
  | choice (branches : List Pattern)
  | sequence (parts : List Pattern)
deriving Repr

/-! ## Nesting -/

mutual

/-- How deeply a set of characters is nested. -/
def CharacterSet.depth : CharacterSet → Nat
  | .bracketed _ inner => inner.depth + 1
  | .union parts => CharacterSet.maxDepth parts + 1
  | .combination left right => max left.depth right.depth + 1
  | _ => 0

/-- How deeply the most nested of some sets is nested. -/
def CharacterSet.maxDepth : List CharacterSet → Nat
  | [] => 0
  | first :: rest => max first.depth (CharacterSet.maxDepth rest)

end

mutual

/-- How deeply a regular expression is nested. -/
def Pattern.depth : Pattern → Nat
  | .empty => 0
  | .flags _ => 0
  | .atom _ => 0
  | .oneOf set => set.depth
  | .repetition inner => inner.depth + 1
  | .group _ inner => inner.depth + 1
  | .choice branches => Pattern.maxDepth branches + 1
  | .sequence parts => Pattern.maxDepth parts + 1

/-- How deeply the most nested of some regular expressions is nested. -/
def Pattern.maxDepth : List Pattern → Nat
  | [] => 0
  | first :: rest => max first.depth (Pattern.maxDepth rest)

end

/-! ## Compiling

A regular expression becomes a machine that goes from octet to octet through finitely many states.
No tables of Unicode are at hand. So where characters are those of Unicode, neither their other
cases nor the digits, blanks and words among them are known. Where they are octets, nothing may
match octets beyond ASCII, which are no characters by themselves.
-/

/-- Whether a character is one of ASCII. -/
def PatternCharacter.isAscii (c : PatternCharacter) : Bool := c.character.toNat < 0x80

/-- Whether a smallest part can be compiled. -/
def PatternAtom.isCompilable (mode : PatternMode) : PatternAtom → Bool
  | .literal c => if mode.unicode then !mode.ignoresCase else !c.isOctet || c.isAscii
  | .any => mode.unicode
  | .edge => true
  | .wordEdge => !mode.unicode
  | .shorthand negated => !mode.unicode && !negated
  | .property => false

mutual

/-- Whether a set of characters can be compiled. -/
def CharacterSet.isCompilable (mode : PatternMode) : CharacterSet → Bool
  | .empty => true
  | .literal c => if mode.unicode then !mode.ignoresCase else c.isAscii
  | .range first last =>
    if mode.unicode then !mode.ignoresCase else first.isAscii && last.isAscii
  | .named negated => if mode.unicode then !mode.ignoresCase else !negated
  | .shorthand negated => !mode.unicode && !negated
  | .property => false
  | .bracketed negated inner => (mode.unicode || !negated) && inner.isCompilable mode
  | .union parts => CharacterSet.areCompilable mode parts
  | .combination left right => left.isCompilable mode && right.isCompilable mode

/-- Whether sets of characters can all be compiled. -/
def CharacterSet.areCompilable (mode : PatternMode) : List CharacterSet → Bool
  | [] => true
  | first :: rest => first.isCompilable mode && CharacterSet.areCompilable mode rest

end

mutual

/-- The mode that holds after a regular expression, if it can be compiled. Flags hold up to the end
of the group that they stand in. -/
def Pattern.modeAfter? (mode : PatternMode) : Pattern → Option PatternMode
  | .empty => some mode
  | .flags change => some (change.apply mode)
  | .atom part => if part.isCompilable mode then some mode else none
  | .oneOf set => if set.isCompilable mode then some mode else none
  | .repetition inner => inner.modeAfter? mode
  | .group change inner => (inner.modeAfter? (change.apply mode)).map fun _ => mode
  | .choice branches => Pattern.modeAfterAll? mode branches
  | .sequence parts => Pattern.modeAfterAll? mode parts

/-- The mode that holds after regular expressions in a row, if they can be compiled. -/
def Pattern.modeAfterAll? (mode : PatternMode) : List Pattern → Option PatternMode
  | [] => some mode
  | first :: rest =>
    match first.modeAfter? mode with
    | some mode => Pattern.modeAfterAll? mode rest
    | none => none

end

namespace Pattern

/-- How deeply regular expressions may be nested. -/
abbrev depthLimit : Nat := 250

/-- Whether a regular expression can be compiled. -/
def isCompilable (pattern : Pattern) : Bool :=
  pattern.depth ≤ depthLimit && (pattern.modeAfter? {}).isSome

/-- Parts in a row, as one regular expression. -/
def ofParts : List Pattern → Pattern
  | [] => empty
  | [part] => part
  | parts => sequence parts

/-- Branches to choose from, as one regular expression. -/
def ofBranches : List Pattern → Pattern
  | [branch] => branch
  | branches => choice branches

/-- Whether it is something to be repeated. -/
def isRepeatable : Pattern → Bool
  | empty => false
  | flags _ => false
  | _ => true

end Pattern

end DnsForwarder.Text
