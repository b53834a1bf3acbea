import DnsForwarder.Config.Reader
import DnsForwarder.Net.Host

/-!
# Where a configuration comes from

A configuration is read from the file that is named, else from a file in the working directory, else
from one of the system's; without any of them everything has its usual value. The first file that is
there is the only one that is looked into.
-/

namespace DnsForwarder.Config

/-- Why a file cannot be read as text. -/
inductive ReadFault where
  | system (error : Net.OsError)
  | notText
  | zeroInName
deriving DecidableEq, Repr

/-- A fault in words. -/
def ReadFault.message : ReadFault → String
  | .system error => error.message
  | .notText => "stream did not contain valid UTF-8"
  | .zeroInName => "file name contained an unexpected NUL byte"

/-- The files that a program sees. -/
structure Files where
  read : String → Except ReadFault String
  present : String → Bool

/-- Why there is no configuration. -/
inductive LoadError where
  | unreadable (path : String) (fault : ReadFault)
  | malformed
  | invalid (problem : Problem)
deriving DecidableEq, Repr

/-- An error in words. What is wrong with a malformed text is not told. -/
def LoadError.message : LoadError → String
  | .unreadable path fault => s!"Failed to read config file {path}: {fault.message}"
  | .malformed => "Failed to parse config:"
  | .invalid problem => s!"Configuration validation error: {problem.message}"

/-- The file in the working directory. -/
def localPath : String := "warden-dns.toml"

/-- The file of the system. -/
def systemPath : String := "/etc/warden-dns/config.toml"

/-- The first of the usual files that is there. -/
def usualPath? (files : Files) : Option String := [localPath, systemPath].find? files.present

/-- Reads a configuration from a file. -/
def ofFile (files : Files) (path : String) : Except LoadError Config :=
  match files.read path with
  | .error fault => .error (.unreadable path fault)
  | .ok text =>
    match ofToml? text with
    | some config => .ok config
    | none => .error .malformed

/-- Reads the configuration that holds and puts overrides in place. -/
def load (files : Files) (path : Option String) (overrides : Overrides) : Except LoadError Config :=
  match path.orElse fun _ => usualPath? files with
  | some path => (ofFile files path).map (·.override overrides)
  | none => .ok (({} : Config).override overrides)

/-- Reads the configuration that holds and looks for problems. -/
def loadValid (files : Files) (path : Option String) (overrides : Overrides) :
    Except LoadError Config := do
  let config ← load files path overrides
  match config.firstProblem? with
  | some problem => .error (.invalid problem)
  | none => .ok config

end DnsForwarder.Config
