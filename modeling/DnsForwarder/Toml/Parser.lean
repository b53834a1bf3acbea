/-!
# Reading characters

A parser reads from an array of characters at an offset and gives the offset after what it read.
Repetition goes on only while it makes progress, so every parser comes to an end.
-/

namespace DnsForwarder.Toml

/-- Where a text is not TOML. -/
structure SyntaxFault where
  offset : Nat
deriving DecidableEq, Repr

/-- Reads something from a text. -/
def Parser (α : Type) := Array Char → Nat → Except SyntaxFault (α × Nat)

namespace Parser

variable {α : Type}

instance : Monad Parser where
  pure value := fun _ offset => .ok (value, offset)
  bind first next := fun text offset =>
    match first text offset with
    | .error fault => .error fault
    | .ok (value, offset) => next value text offset

/-- Stops: the text is not TOML. -/
def fail : Parser α := fun _ offset => .error ⟨offset⟩

/-- The character at a distance ahead. -/
def peekAt (distance : Nat) : Parser (Option Char) := fun text offset =>
  .ok (text[offset + distance]?, offset)

/-- The next character. -/
def peek : Parser (Option Char) := peekAt 0

/-- Passes over a number of characters. -/
def skip (count : Nat) : Parser Unit := fun _ offset => .ok ((), offset + count)

/-- The characters from an offset on that satisfy `p`. -/
def span (p : Char → Bool) (text : Array Char) (offset : Nat) : List Char :=
  if h : offset < text.size then
    if p text[offset] then text[offset] :: span p text (offset + 1) else []
  else []
termination_by text.size - offset

/-- Takes all the next characters that satisfy `p`. -/
def takeWhile (p : Char → Bool) : Parser (List Char) := fun text offset =>
  let taken := span p text offset
  .ok (taken, offset + taken.length)

/-- Whether some characters come next. -/
def ahead (expected : List Char) : Parser Bool := fun text offset =>
  .ok (expected.zipIdx.all fun (c, i) => text[offset + i]? == some c, offset)

/-- Takes one given character. -/
def expect (c : Char) : Parser Unit := do
  if (← peek) == some c then skip 1 else fail

/-- Runs a step again and again until it gives nothing, and collects what it gives. -/
def collect (step : Parser (Option α)) (text : Array Char) (offset : Nat) :
    Except SyntaxFault (List α × Nat) :=
  match step text offset with
  | .error fault => .error fault
  | .ok (none, next) => .ok ([], next)
  | .ok (some value, next) =>
    if offset < next ∧ next ≤ text.size then
      match collect step text next with
      | .error fault => .error fault
      | .ok (values, last) => .ok (value :: values, last)
    else
      .error ⟨next⟩
termination_by text.size - offset

/-- Runs a step until it gives nothing. -/
def repeated (step : Parser (Option α)) : Parser (List α) := collect step

end Parser

end DnsForwarder.Toml
