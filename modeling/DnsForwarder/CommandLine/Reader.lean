import DnsForwarder.CommandLine

/-!
# Reading a command line

An option has its value in the same argument, after an equals sign or, where it is named by a
letter, at once; or the next argument is the value, unless that looks like an option. Nothing is an
option after two hyphens.

A value that is an argument of its own is looked into when the next option begins or the line ends,
any other at once. Whatever there is no place for is reported before a value that still waits to be
looked into.
-/

namespace DnsForwarder.CommandLine

/-- The largest number that is read. -/
abbrev maxNumber : Int := UInt64.size / 2 - 1

/-- The smallest number that is read. -/
abbrev minNumber : Int := -(UInt64.size / 2)

/-- Reads digits one after the other. -/
def readDigits (negative : Bool) (number : Int) : List Char → Except NumberFault Int
  | [] => .ok number
  | c :: rest =>
    if c.isDigit then
      let digit : Int := (c.toNat - '0'.toNat : Nat)
      let number := number * 10 + if negative then -digit else digit
      if maxNumber < number then .error .tooLarge
      else if number < minNumber then .error .tooSmall
      else readDigits negative number rest
    else .error .invalidDigit

/-- Reads a number, which may have a sign. -/
def readNumber : List Char → Except NumberFault Int
  | [] => .error .empty
  | ['+'] => .error .invalidDigit
  | ['-'] => .error .invalidDigit
  | '+' :: digits => readDigits false 0 digits
  | '-' :: digits => readDigits true 0 digits
  | digits => readDigits false 0 digits

/-- Reads a port. -/
def readPort (text : String) : Except NumberFault UInt16 := do
  let number ← readNumber text.toList
  if 0 ≤ number ∧ number ≤ 65535 then .ok (UInt16.ofNat number.toNat) else .error (.notAPort number)

namespace Arguments

/-- Whether an option was given. -/
def has (arguments : Arguments) : Key → Bool
  | .config => arguments.path.isSome
  | .port => arguments.overrides.port.isSome
  | .bind => arguments.overrides.bindAddress.isSome
  | .logLevel => arguments.overrides.logLevel.isSome
  | .help => false
  | .version => false

/-- Takes the value of an option. -/
def take (arguments : Arguments) (key : Key) (text : String) : Except Misuse Arguments :=
  let overrides := arguments.overrides
  if arguments.has key then .error (.repeated key)
  else
    match key with
    | .config => .ok { arguments with path := some text }
    | .port =>
      match readPort text with
      | .ok port => .ok { arguments with overrides := { overrides with port := some port } }
      | .error fault => .error (.badNumber key text fault)
    | .bind => .ok { arguments with overrides := { overrides with bindAddress := some text } }
    | .logLevel => .ok { arguments with overrides := { overrides with logLevel := some text } }
    | .help => .error (.valueNotTaken key text)
    | .version => .error (.valueNotTaken key text)

end Arguments

/-- An option whose value is an argument of its own. -/
inductive Waiting where
  | nothing
  /-- The value has not come yet. -/
  | forValue (key : Key)
  /-- The value has not been looked into yet. -/
  | withValue (key : Key) (text : String)
deriving DecidableEq, Repr

/-- A command line that is being read. -/
structure Progress where
  arguments : Arguments := {}
  waiting : Waiting := .nothing
deriving DecidableEq, Repr

namespace Progress

/-- Looks into the value that waits. -/
def settle (progress : Progress) : Except Misuse Arguments :=
  match progress.waiting with
  | .nothing => .ok progress.arguments
  | .forValue key => .error (.valueMissing key)
  | .withValue key text => progress.arguments.take key text

/-- An option that has its value, if any, in the same argument. Either reading goes on or the option
decides what is asked for. -/
def option (progress : Progress) (key : Key) (value : Option String) :
    Except Misuse (Progress ⊕ Request) :=
  match key, value with
  | .help, none => do let _ ← progress.settle; pure (.inr .help)
  | .version, none => do let _ ← progress.settle; pure (.inr .version)
  | key, some text =>
    do let arguments ← (← progress.settle).take key text; pure (.inl { arguments })
  | key, none => do pure (.inl { arguments := ← progress.settle, waiting := .forValue key })

/-- An argument that begins with two hyphens and has this after them. -/
def long (progress : Progress) (text : List Char) : Except Misuse (Progress ⊕ Request) :=
  let name := String.ofList (text.takeWhile (· != '='))
  let value := (text.dropWhile (· != '=')).tail?.map String.ofList
  match Key.ofLongName? name, value with
  | none, _ => .error (.unexpected s!"--{name}")
  | some key, some text =>
    if key.placeholder?.isNone then .error (.valueNotTaken key text)
    else progress.option key (some text)
  | some key, none => progress.option key none

/-- An argument that begins with a hyphen and a letter, and what follows the letter. What follows an
option that takes no value does not matter. -/
def short (progress : Progress) (letter : Char) (text : List Char) :
    Except Misuse (Progress ⊕ Request) :=
  match Key.ofLetter? letter with
  | none => .error (.unexpected s!"-{letter}")
  | some key =>
    if key.placeholder?.isNone then progress.option key none
    else
      match text with
      | [] => progress.option key none
      | '=' :: value => progress.option key (some (String.ofList value))
      | value => progress.option key (some (String.ofList value))

/-- An argument that is no option: the value that is waited for. -/
def plain (progress : Progress) (text : String) : Except Misuse (Progress ⊕ Request) :=
  match progress.waiting with
  | .forValue key => .ok (.inl { progress with waiting := .withValue key text })
  | _ => .error (.unexpected text)

/-- Reads one argument. -/
def argument (progress : Progress) (text : String) : Except Misuse (Progress ⊕ Request) :=
  match text.toList with
  | '-' :: '-' :: rest => progress.long rest
  | '-' :: letter :: rest => progress.short letter rest
  | _ => progress.plain text

end Progress

/-- Reads the arguments that are left. -/
def readFrom (progress : Progress) : List String → Except Misuse Request
  | [] => do pure (.run (← progress.settle))
  | "--" :: rest =>
    match rest with
    | [] => do pure (.run (← progress.settle))
    | text :: _ => .error (.unexpected text)
  | text :: rest => do
    match ← progress.argument text with
    | .inl progress => readFrom progress rest
    | .inr request => pure request

/-- What the arguments ask for. -/
def read (arguments : List String) : Except Misuse Request := readFrom {} arguments

end DnsForwarder.CommandLine
