import DnsForwarder.Event.Printer
import DnsForwarder.Program

/-!
# The command

Reads the files that the configuration may come from, runs the program and prints what it says. The
program is run on a host without a network.
-/

namespace DnsForwarder.Command

/-- Why a file could not be read. -/
def readFault (error : IO.Error) : Config.ReadFault :=
  match error with
  | .noFileOrDirectory .. => .system .noSuchFile
  | .inappropriateType .. => .system .isADirectory
  | other => .system ⟨5, toString other⟩

/-- Reads a file as text. -/
def readText (path : String) : IO (Except Config.ReadFault String) := do
  try
    let bytes ← IO.FS.readBinFile path
    match String.fromUTF8? bytes with
    | some text => pure (.ok text)
    | none => pure (.error .notText)
  catch error => pure (.error (readFault error))

/-- The files that the program may look into. -/
def readFiles (arguments : List String) : IO Config.Files := do
  let named :=
    match CommandLine.read arguments with
    | .ok (.run arguments) => arguments.path.toList
    | _ => []
  let entries ← (named ++ [Config.localPath, Config.systemPath]).mapM fun path => do
    pure (path, ← readText path)
  let read (path : String) : Except Config.ReadFault String :=
    (entries.lookup path).getD (.error (.system .noSuchFile))
  let present (path : String) : Bool :=
    match read path with
    | .error (.system error) => error != .noSuchFile
    | _ => true
  pure { read, present }

end DnsForwarder.Command

open DnsForwarder

/-- Runs the program with the arguments of the command. -/
def main (arguments : List String) : IO UInt32 := do
  let files ← Command.readFiles arguments
  let ending := Program.run
    { files, host := .isolated, logFilter := ← IO.getEnv "RUST_LOG",
      now := ← IO.monoMsNow } arguments
  for line in ending.lines do IO.println line
  for event in ending.log do
    IO.println (if ending.jsonLog then event.toJson else event.toText)
  if let some complaint := ending.complaint then IO.eprintln complaint
  return ending.exitCode.toUInt32
