import DnsForwarder.Event.Filter
import DnsForwarder.Event.Filter.ValuePattern
import DnsForwarder.Text.Alphanumeric
import DnsForwarder.Text.Blank

/-!
# Reading filters

The rules of a filter are separated by commas: `info`, `server=debug`, `[{listen}]=warn`. A name
alone lets everything through, and so does an equals sign with no level after it.

The parts of a rule are found in it without the blanks around it, and then cut out of it with these
blanks at the same places. So a rule with blanks in front hardly says what it seems to say, and it
may turn out that a part begins or ends within a character. Rules are read from left to right, and a
fault in front hides those behind it.
-/

namespace DnsForwarder

/-- Why there is no filter. -/
inductive FilterFault where
  /-- The text says nothing that is a filter. -/
  | unreadable
  /-- A part of a rule begins or ends within a character. -/
  | cutCharacter
deriving DecidableEq, Repr

namespace Level

/-- The number that decimal digits spell, with a plus sign or without. -/
def number? (text : List Char) : Option Nat :=
  let digits := if text.head? == some '+' then text.drop 1 else text
  if digits.isEmpty || !digits.all Char.isDigit then none
  else some (digits.foldl (fun number c => number * 10 + (c.toNat - '0'.toNat)) 0)

/-- The rank that a number stands for. -/
def thresholdOfNumber? : Nat → Option Nat
  | 0 => some off
  | 1 => some error.rank
  | 2 => some warn.rank
  | 3 => some info.rank
  | 4 => some debug.rank
  | 5 => some trace.rank
  | _ => none

/-- The rank that a word stands for; its case does not matter. -/
def thresholdOfWord? (word : String) : Option Nat :=
  match word.map Char.toLower with
  | "off" => some off
  | "error" => some error.rank
  | "warn" => some warn.rank
  | "info" => some info.rank
  | "debug" => some debug.rank
  | "trace" => some trace.rank
  | _ => none

/-- The rank that a word or a number stands for. -/
def threshold? (text : String) : Option Nat :=
  match number? text.toList with
  | some number => thresholdOfNumber? number
  | none => thresholdOfWord? text

end Level

namespace FilterRule

/-- The octets of a text from one place on and before another, which have to be whole characters. -/
def cut (text : String) (first last : Nat) : Except FilterFault String :=
  match String.fromUTF8? (text.toUTF8.extract first last) with
  | some part => .ok part
  | none => .error .cutCharacter

/-- How many octets characters take. -/
def size (characters : List Char) : Nat := (String.ofList characters).utf8ByteSize

/-- The rank at a place after an equals sign; everything where nothing is there. -/
def thresholdAt (text : String) (place : Nat) : Except FilterFault Nat := do
  let word ← cut text place text.utf8ByteSize
  if word.isEmpty then pure Level.trace.rank
  else
    match Level.threshold? word with
    | some threshold => pure threshold
    | none => throw .unreadable

/-- The rank after a bracket at a place, where `rest` stands. -/
def thresholdAfter (text : String) (place : Nat) : (rest : List Char) → Except FilterFault Nat
  | [] => pure Level.trace.rank
  | '=' :: _ => thresholdAt text (place + 1)
  | _ => throw .unreadable

/-- A field in braces: its name and, after an equals sign, its value. Whatever follows a further
equals sign does not matter. -/
def fieldOf (text : String) : Except FilterFault (String × Option String) :=
  match text.splitOn "=" with
  | "" :: [] => throw .unreadable
  | name :: [] => pure (name, none)
  | name :: value :: _ =>
    if ValuePattern.isValid value then pure (name, some value) else throw .unreadable
  | [] => throw .unreadable

/-- The rest of a rule about a source after an opening bracket, at a place where `rest` stands: a
scope, a field in braces with or without a value, or both. -/
def bracketed (text source : String) (place : Nat) (rest : List Char) :
    Except FilterFault FilterRule := do
  let name := rest.takeWhile fun c => c != ']' && c != '\x7b'
  let nameEnd := place + size name
  match rest.drop name.length with
  | [] => throw .unreadable
  | ']' :: rest =>
    let _ ← cut text place nameEnd
    let threshold ← thresholdAfter text (nameEnd + 1) rest
    pure { source, aboutScopes := true, threshold }
  | _ :: rest =>
    let scope ← cut text place nameEnd
    let inner := rest.takeWhile (· != '\x7d')
    let innerEnd := nameEnd + 1 + size inner
    match rest.drop inner.length with
    | [] => throw .unreadable
    | _ :: rest =>
      let (name, value) ← fieldOf (← cut text (nameEnd + 1) innerEnd)
      match rest with
      | ']' :: rest =>
        let threshold ← thresholdAfter text (innerEnd + 2) rest
        pure {
          source
          field := some name
          aboutScopes := !scope.isEmpty || value.isSome
          threshold }
      | _ => throw .unreadable

/-- Whether a rule may begin with a character that opens no bracket. -/
def isStart (c : Char) : Bool := Text.isAlphanumeric c || c == '_' || c == ':' || c == '-'

/-- Reads a rule. -/
def ofText (text : String) : Except FilterFault FilterRule :=
  match Text.trim text.toList with
  | [] => throw .unreadable
  | '[' :: rest => bracketed text "" 1 rest
  | first :: rest =>
    if !isStart first then throw .unreadable
    else
      let word := first :: rest.takeWhile fun c => c != '=' && c != '['
      match (first :: rest).drop word.length with
      | [] =>
        match Level.threshold? text with
        | some threshold => pure { threshold }
        | none => pure { source := text, threshold := Level.trace.rank }
      | '=' :: _ => do
        let source ← cut text 0 (size word)
        let threshold ← thresholdAt text (size word + 1)
        pure { source, threshold }
      | _ :: rest => do bracketed text (← cut text 0 (size word)) (size word + 1) rest

end FilterRule

namespace EventFilter

/-- Reads a filter. Without any rule, errors get through. -/
def ofText (text : String) : Except FilterFault EventFilter := do
  let rules ← ((text.splitOn ",").filter fun part => !part.isEmpty).mapM FilterRule.ofText
  pure ⟨if rules.isEmpty then [{ threshold := Level.error.rank }] else rules⟩

/-- The filter for a level, which the surroundings may overrule. One that cannot be read does not
count, and where none can be read it is `info`. -/
def choose (overruling : Option String) (level : String) : Except FilterFault EventFilter :=
  (overruling.toList ++ [level]).foldr
    (fun text otherwise =>
      match ofText text with
      | .error .unreadable => otherwise
      | result => result)
    (.ok ⟨[{ threshold := Level.info.rank }]⟩)

end EventFilter

end DnsForwarder
