import DnsForwarder.Config
import DnsForwarder.Text.ControlSequence

/-!
# The command line

The program takes options, each at most once, and nothing else. Two of them ask for a text and end
the matter. The errors say how a command line breaks these rules.
-/

namespace DnsForwarder.CommandLine

/-- The name of the program. -/
def programName : String := "warden-dns"

/-- The version of the program. -/
def version : String := "0.3.0"

/-- What an option is about. -/
inductive Key where
  | config
  | port
  | bind
  | logLevel
  | help
  | version
deriving DecidableEq, Repr

namespace Key

/-- All the keys in the order in which they are shown. -/
def all : List Key := [.config, .port, .bind, .logLevel, .help, .version]

/-- The name after two hyphens. -/
def longName : Key → String
  | .config => "config"
  | .port => "dns-port"
  | .bind => "bind"
  | .logLevel => "log-level"
  | .help => "help"
  | .version => "version"

/-- The letter after one hyphen. -/
def letter? : Key → Option Char
  | .config => some 'c'
  | .port => some 'd'
  | .bind => some 'b'
  | .logLevel => none
  | .help => some 'h'
  | .version => some 'V'

/-- What stands for the value of an option that takes one. -/
def placeholder? : Key → Option String
  | .config => some "FILE"
  | .port => some "DNS_PORT"
  | .bind => some "BIND"
  | .logLevel => some "LOG_LEVEL"
  | .help => none
  | .version => none

/-- What an option does. -/
def about : Key → String
  | .config => "Configuration file path"
  | .port => "DNS server port"
  | .bind => "Bind address"
  | .logLevel => "Log level (trace, debug, info, warn, error)"
  | .help => "Print help"
  | .version => "Print version"

/-- The long name with hyphens and the place of the value. -/
def form (key : Key) : String :=
  match key.placeholder? with
  | some placeholder => s!"--{key.longName} <{placeholder}>"
  | none => s!"--{key.longName}"

/-- The key with a long name. -/
def ofLongName? (name : String) : Option Key := all.find? fun key => key.longName == name

/-- The key with a letter. -/
def ofLetter? (letter : Char) : Option Key := all.find? fun key => key.letter? == some letter

theorem ofLongName?_longName (key : Key) : ofLongName? key.longName = some key := by
  cases key <;> decide

end Key

/-- What is wrong with a number. -/
inductive NumberFault where
  | empty
  | invalidDigit
  | tooLarge
  | tooSmall
  | notAPort (number : Int)
deriving DecidableEq, Repr

/-- A fault in words. -/
def NumberFault.message : NumberFault → String
  | .empty => "cannot parse integer from empty string"
  | .invalidDigit => "invalid digit found in string"
  | .tooLarge => "number too large to fit in target type"
  | .tooSmall => "number too small to fit in target type"
  | .notAPort number => s!"{number} is not in 0..=65535"

/-- How a command line breaks the rules. -/
inductive Misuse where
  /-- There is no such option, or no place for an argument. -/
  | unexpected (argument : String)
  | valueMissing (key : Key)
  | badNumber (key : Key) (text : String) (fault : NumberFault)
  | repeated (key : Key)
  | valueNotTaken (key : Key) (text : String)
deriving DecidableEq, Repr

/-- A misuse in words. Control sequences do not get from the arguments to the terminal. -/
def Misuse.message : Misuse → String
  | .unexpected argument => s!"unexpected argument '{Text.withoutControls argument}' found"
  | .valueMissing key => s!"a value is required for '{key.form}' but none was supplied"
  | .badNumber key text fault =>
    s!"invalid value '{Text.withoutControls text}' for '{key.form}': {fault.message}"
  | .repeated key => s!"the argument '{key.form}' cannot be used multiple times"
  | .valueNotTaken key text =>
    s!"unexpected value '{Text.withoutControls text}' for '{key.form}' found; no more were expected"

/-- What options give. -/
structure Arguments where
  path : Option String := none
  overrides : Config.Overrides := {}
deriving DecidableEq, Repr

/-- What a command line asks for. -/
inductive Request where
  | run (arguments : Arguments)
  | help
  | version
deriving DecidableEq, Repr

/-! ## Texts -/

/-- Letter, long name and value of an option, in columns. -/
def optionForm (key : Key) : String :=
  match key.letter? with
  | some letter => s!"-{letter}, {key.form}"
  | none => s!"    {key.form}"

/-- A text filled up with spaces. -/
def padTo (width : Nat) (text : String) : String :=
  text ++ String.ofList (List.replicate (width - text.length) ' ')

/-- How the program is called. -/
def usageLine : String := s!"Usage: {programName} [OPTIONS]"

/-- The lines of the help text. What the options do stands in one column. -/
def helpLines : List String :=
  let width := (Key.all.map fun key => (optionForm key).length).foldl max 0
  ["Warden DNS - filtering DNS forwarder with per-domain policy", "", usageLine, "", "Options:"] ++
    Key.all.map fun key => s!"  {padTo width (optionForm key)}  {key.about}"

/-- The line with the version. -/
def versionLine : String := s!"{programName} {version}"

end DnsForwarder.CommandLine
