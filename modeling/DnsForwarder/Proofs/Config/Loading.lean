import DnsForwarder.Config.Source
import DnsForwarder.Proofs.Config.Conditions
import DnsForwarder.Proofs.Config.Defaults

/-!
# Where a configuration comes from

A configuration is read from one source only: the file that is named, else the one in the working
directory, else that of the system, else none. What it says of each key holds, overrides take the
place of three of its values, and then it has to meet its conditions
(`DnsForwarder.Config.loadValid_from_one_source`).
-/

namespace DnsForwarder

namespace Config

/-- The file that a configuration is read from, if any. -/
inductive Source (files : Files) : (named : Option String) → (source : Option String) → Prop where
  | named (path : String) : Source files (some path) (some path)
  | here (present : files.present localPath = true) : Source files none (some localPath)
  | system (absent : files.present localPath = false) (present : files.present systemPath = true) :
    Source files none (some systemPath)
  | nowhere (absent : files.present localPath = false)
    (missing : files.present systemPath = false) :
    Source files none none

/-- What a source has to say. -/
inductive Says (files : Files) : (source : Option String) → Except LoadError Config → Prop where
  /-- Without a source everything is as usual. -/
  | usual {config : Config} (usual : ∀ key ∈ optionalKeys, key.get config = key.usual) :
    Says files none (.ok config)
  | unreadable {path : String} {fault : ReadFault} (failed : files.read path = .error fault) :
    Says files (some path) (.error (.unreadable path fault))
  | malformed {path text : String} (read : files.read path = .ok text)
    (broken : Toml.parse? text = none) :
    Says files (some path) (.error .malformed)
  /-- There is a key with a value that it cannot have. -/
  | unfit {path text : String} {entries : Toml.Entries} (read : files.read path = .ok text)
    (parsed : Toml.parse? text = some entries)
    (misfit : ∀ config, ∃ key ∈ optionalKeys, ¬ key.Holds entries config) :
    Says files (some path) (.error .malformed)
  | spelled {path text : String} {entries : Toml.Entries} {config : Config}
    (read : files.read path = .ok text)
    (parsed : Toml.parse? text = some entries)
    (holds : ∀ key ∈ optionalKeys, key.Holds entries config) :
    Says files (some path) (.ok config)

/-- A configuration with overrides in place: three values are those that are given, if they are, and
nothing else changes. -/
structure Overridden (overrides : Overrides) (config merged : Config) : Prop where
  port : merged.server.port = overrides.port.getD config.server.port
  bindAddress : merged.server.bindAddress = overrides.bindAddress.getD config.server.bindAddress
  logLevel : merged.logging.level = overrides.logLevel.getD config.logging.level
  rest : merged =
    { config with
      server :=
        { config.server with
          port := merged.server.port
          bindAddress := merged.server.bindAddress }
      logging := { config.logging with level := merged.logging.level } }

/-- What comes of what a source says. -/
inductive Settles (overrides : Overrides) :
    Except LoadError Config → Except LoadError Config → Prop where
  | failed (error : LoadError) : Settles overrides (.error error) (.error error)
  | accepted {config merged : Config} (overridden : Overridden overrides config merged)
    (met : ∀ condition ∈ merged.conditions, condition) : Settles overrides (.ok config) (.ok merged)
  /-- The first condition that is not met is told. -/
  | refused {config merged : Config} {place : Nat} {problem : Problem}
    (overridden : Overridden overrides config merged) (unmet : Complaint merged place problem)
    (met : ∀ condition ∈ merged.conditions.take place, condition) :
    Settles overrides (.ok config) (.error (.invalid problem))

section

variable {files : Files} {path source : Option String} {overrides : Overrides}

/-- The relation of the sources is the choice that the loader makes. -/
theorem source_iff :
    Source files path source ↔ (path.orElse fun _ => usualPath? files) = source := by
  constructor
  · rintro (⟨path⟩ | present | ⟨absent, present⟩ | ⟨absent, missing⟩)
    · rfl
    · simp [usualPath?, present]
    · simp [usualPath?, absent, present]
    · simp [usualPath?, absent, missing]
  · rintro rfl
    cases path with
    | some path => exact .named path
    | none =>
      cases present : files.present localPath with
      | true => simpa [usualPath?, present] using Source.here present
      | false =>
        cases further : files.present systemPath with
        | true => simpa [usualPath?, present, further] using Source.system present further
        | false => simpa [usualPath?, present, further] using Source.nowhere present further

/-- What a source says, as it is read. -/
def said (files : Files) (source : Option String) : Except LoadError Config :=
  source.elim (.ok {}) (ofFile files)

/-- A document is no configuration if each configuration differs from it in some key. -/
theorem ofToml?_eq_none_iff {text : String} {entries : Toml.Entries}
    (parsed : Toml.parse? text = some entries) :
    ofToml? text = none ↔ ∀ config, ∃ key ∈ optionalKeys, ¬ key.Holds entries config := by
  rw [ofToml?, parsed, Option.bind_some, Option.eq_none_iff_forall_ne_some]
  refine forall_congr' fun config => ?_
  rw [ne_eq, ofEntries?_eq_some_iff]
  push Not
  rfl

/-- What a source says is what is read from it. -/
theorem says_iff {given : Except LoadError Config} :
    Says files source given ↔ said files source = given := by
  constructor
  · rintro (usual | failed | ⟨read, broken⟩ | ⟨read, parsed, misfit⟩ | ⟨read, parsed, holds⟩)
    · rw [eq_default_iff.mpr usual]
      rfl
    · simp [said, ofFile, failed]
    · simp [said, ofFile, read, ofToml?, broken]
    · simp [said, ofFile, read, (ofToml?_eq_none_iff parsed).mpr misfit]
    · simp [said, ofFile, read, ofToml?, parsed, (ofEntries?_eq_some_iff _ _).mpr holds]
  · rintro rfl
    cases source with
    | none => exact .usual (eq_default_iff.mp rfl)
    | some path =>
      cases read : files.read path with
      | error fault => simpa [said, ofFile, read] using Says.unreadable read
      | ok text =>
        cases parsed : Toml.parse? text with
        | none => simpa [said, ofFile, read, ofToml?, parsed] using Says.malformed read parsed
        | some entries =>
          cases spelled : ofToml? text with
          | none =>
            simpa [said, ofFile, read, spelled]
              using Says.unfit read parsed ((ofToml?_eq_none_iff parsed).mp spelled)
          | some config =>
            have found : ofEntries? entries = some config := by
              rwa [ofToml?, parsed, Option.bind_some] at spelled
            simpa [said, ofFile, read, spelled] using
              Says.spelled read parsed ((ofEntries?_eq_some_iff entries config).mp found)

/-- The relation of the overrides is the function that puts them in place. -/
theorem overridden_iff {config merged : Config} :
    Overridden overrides config merged ↔ config.override overrides = merged := by
  constructor
  · rintro ⟨port, bindAddress, logLevel, rest⟩
    rw [rest, port, bindAddress, logLevel, override]
  · rintro rfl
    exact ⟨rfl, rfl, rfl, rfl⟩

/-- What comes of what a source says, as it is found out. -/
def settle (overrides : Overrides) : Except LoadError Config → Except LoadError Config
  | .error error => .error error
  | .ok config =>
    match (config.override overrides).firstProblem? with
    | some problem => .error (.invalid problem)
    | none => .ok (config.override overrides)

/-- What comes of what a source says is what is put together and looked at. -/
theorem settles_iff {given result : Except LoadError Config} :
    Settles overrides given result ↔ settle overrides given = result := by
  constructor
  · rintro (error | ⟨overridden, met⟩ | ⟨overridden, unmet, met⟩)
    · rfl
    · obtain rfl := overridden_iff.mp overridden
      simp [settle, firstProblem?_eq_none_iff.mpr met]
    · obtain rfl := overridden_iff.mp overridden
      simp [settle, firstProblem?_eq_some_iff.mpr ⟨_, unmet, met⟩]
  · rintro rfl
    cases given with
    | error error => exact .failed error
    | ok config =>
      have overridden := overridden_iff.mpr (rfl : config.override overrides = _)
      cases problem : (config.override overrides).firstProblem? with
      | none =>
        simpa [settle, problem]
          using Settles.accepted overridden (firstProblem?_eq_none_iff.mp problem)
      | some problem =>
        obtain ⟨place, unmet, met⟩ := firstProblem?_eq_some_iff.mp problem
        simpa [settle, problem] using Settles.refused overridden unmet met

end

/-- Only the source counts, once it is known which it is. -/
theorem loadValid_eq_settle (files : Files) (path : Option String) (overrides : Overrides) :
    loadValid files path overrides =
      settle overrides (said files (path.orElse fun _ => usualPath? files)) := by
  unfold loadValid load
  cases path.orElse fun _ => usualPath? files with
  | none => rfl
  | some path =>
    dsimp only [said, Option.elim_some]
    cases ofFile files path <;> rfl

/-- **One source.** There is exactly one source of a configuration, and what it says is put together
with the overrides and looked at, or is the failure. What is in other files does not matter. -/
theorem loadValid_from_one_source (files : Files) (path : Option String) (overrides : Overrides) :
    ∃ source, (∀ other, Source files path other ↔ other = source) ∧
      (∀ result, loadValid files path overrides = result ↔
        ∃ given, Says files source given ∧ Settles overrides given result) ∧
      ∀ others : Files, Source others path source →
        (∀ file ∈ source, others.read file = files.read file) →
        loadValid others path overrides = loadValid files path overrides := by
  refine ⟨path.orElse fun _ => usualPath? files, fun other => source_iff.trans eq_comm,
    fun result => ?_, fun others same read => ?_⟩
  · simp only [loadValid_eq_settle, says_iff, settles_iff, exists_eq_left']
  · rw [loadValid_eq_settle, loadValid_eq_settle, source_iff.mp same]
    -- What is settled is what the same source says, of which only this one file is read.
    congr 1
    cases source : path.orElse fun _ => usualPath? files with
    | none => rfl
    | some file =>
      rw [said, said, Option.elim_some, Option.elim_some, ofFile, ofFile, read file source]

end Config

end DnsForwarder
