import DnsForwarder.Bytes
import DnsForwarder.Config.Source

/-!
# A working directory

A directory tree that is given by its files, and its place in a file system. Around it lie only the
directories that every system has and the device that is always empty.
-/

namespace DnsForwarder.Config

/-- Files with the steps of their paths. -/
structure Directory where
  files : List (List String × Bytes)

/-- What a path leads to. -/
inductive Node where
  | file (bytes : Bytes)
  | directory
deriving DecidableEq

namespace Directory

/-- The steps of a path. Empty ones and single dots lead nowhere else. -/
def steps (path : String) : List String :=
  (path.splitOn "/").filter fun step => step != "" && step != "."

/-- The tree of files that are given by path and content. -/
def ofFiles (files : List (String × Bytes)) : Directory :=
  ⟨files.map fun (path, bytes) => (steps path, bytes)⟩

/-- The place of the working directory in the file system. Its own name is one that no path can
spell. -/
def place : List String := ["tmp", "/"]

/-- The directories at the root of every file system. -/
def commonNames : List String :=
  ["bin", "boot", "dev", "etc", "home", "lib", "media", "mnt", "opt", "proc", "root", "run", "sbin",
    "srv", "sys", "tmp", "usr", "var"]

/-- What lies outside of the working directory. -/
def surrounding? : (place : List String) → Option Node
  | [] => some .directory
  | [name] => if commonNames.contains name then some .directory else none
  | place => if place == ["dev", "null"] then some (.file []) else none

/-- What lies in the working directory at the end of steps. -/
def inside? (directory : Directory) (steps : List String) : Option Node :=
  match directory.files.find? fun file => file.1 == steps with
  | some (_, bytes) => some (.file bytes)
  | none =>
    if steps.isEmpty || directory.files.any fun file => steps.isPrefixOf file.1 then some .directory
    else none

/-- What lies at a place in the file system. -/
def node? (directory : Directory) (spot : List String) : Option Node :=
  if place.isPrefixOf spot then directory.inside? (spot.drop place.length) else surrounding? spot

/-- The most octets that a name may have. -/
abbrev maxName : Nat := 255

/-- The most octets that a path may have. -/
abbrev maxPath : Nat := 4095

/-- Follows steps from a place in the file system. Two dots lead back, at the root to the root
itself. -/
def follow (directory : Directory) : (start : List String) → List String → Except Net.OsError Node
  | start, [] =>
    match directory.node? start with
    | some node => .ok node
    | none => .error .noSuchFile
  | start, step :: rest =>
    match directory.node? start with
    | some .directory =>
      if step = ".." then follow directory start.dropLast rest
      else if maxName < step.utf8ByteSize then .error .nameTooLong
      else follow directory (start ++ [step]) rest
    | some (.file _) => .error .notADirectory
    | none => .error .noSuchFile

/-- What a path leads to. -/
def lookUp (directory : Directory) (path : String) : Except Net.OsError Node :=
  if path.isEmpty then .error .noSuchFile
  else if maxPath < path.utf8ByteSize then .error .nameTooLong
  else
    match directory.follow (if path.startsWith "/" then [] else place) (steps path) with
    | .ok (.file bytes) =>
      if path.endsWith "/" || path.endsWith "/." then .error .notADirectory else .ok (.file bytes)
    | found => found

/-- The files as a program sees them. -/
def toFiles (directory : Directory) : Files where
  read path :=
    if path.toList.contains (Char.ofNat 0) then .error .zeroInName
    else
      match directory.lookUp path with
      | .error error => .error (.system error)
      | .ok .directory => .error (.system .isADirectory)
      | .ok (.file bytes) =>
        match String.fromUTF8? (ByteArray.mk bytes.toArray) with
        | some text => .ok text
        | none => .error .notText
  present path := (directory.lookUp path).isOk

end Directory

end DnsForwarder.Config
