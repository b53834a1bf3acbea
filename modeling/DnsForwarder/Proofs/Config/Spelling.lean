import DnsForwarder.Config.Reader
import Mathlib.Data.List.Forall2
import Mathlib.Data.List.Nodup

/-!
# What a document spells

What the values of a document mean is said here without the reader: which value a key has in a
table (`DnsForwarder.Config.Gives`), which values the keys of a section have
(`DnsForwarder.Config.Has`), and which texts, numbers, resolvers and rules are spelled by a value.
The reader follows it: it reads the fields of a section exactly if there is one
(`DnsForwarder.Config.readFields_isSome_iff`), a key that is left out has its usual value
(`DnsForwarder.Config.field_eq_some_iff`), and each kind of value is read as what it spells.
-/

namespace DnsForwarder

namespace Config

open Toml

/-! ## Keys -/

/-- A key has a value in a table. Should it stand there twice, the first value counts. -/
def Gives (entries : Entries) (name : String) (value : Value) : Prop :=
  ∃ before after, entries = before ++ (name, value) :: after ∧
    ∀ entry ∈ before, entry.1 ≠ name

/-- A key is not in a table. -/
def Lacks (entries : Entries) (name : String) : Prop := ∀ entry ∈ entries, entry.1 ≠ name

/-- A value that stands for a section: a table, an array of the values of the keys in their order,
or a date, which has none of the keys. -/
inductive IsSection : Value → Prop where
  | table (origin : Origin) (entries : Entries) : IsSection (.table origin entries)
  | array (growing : Bool) (items : List Value) : IsSection (.array growing items)
  | dateTime (text : String) : IsSection (.dateTime text)

/-- A key of a section has a value, by its name or by its place among the names. -/
inductive Has (names : List String) (name : String) (value : Value) : (held : Value) → Prop where
  | byName {origin : Origin} {entries : Entries} (given : Gives entries name value) :
    Has names name value (.table origin entries)
  | byPlace {growing : Bool} {items : List Value} {place : Nat}
    (named : names[place]? = some name) (given : items[place]? = some value) :
    Has names name value (.array growing items)

/-- A key of a section is what its value spells or, if it is left out, what it usually is. A key
that has to be given is nothing usually. -/
inductive KeyHolds {α : Type} (names : List String) (held : Value) (name : String)
    (Spells : Value → α → Prop) (usual : Option α) (x : α) : Prop where
  | omitted (absent : ∀ value, ¬ Has names name value held) (same : usual = some x)
  | given {value : Value} (has : Has names name value held) (spells : Spells value x)

/-- A table is asked for the first value of a key. -/
theorem get?_eq_some_iff {entries : Entries} {name : String} {value : Value} :
    entries.get? name = some value ↔ Gives entries name value := by
  unfold Entries.get? Gives
  rw [Option.map_eq_some_iff]
  constructor
  · rintro ⟨⟨_, _⟩, found, rfl⟩
    obtain ⟨same, before, after, split, earlier⟩ := List.find?_eq_some_iff_append.mp found
    obtain rfl := beq_iff_eq.mp same
    exact ⟨before, after, split, fun entry member => by simpa using earlier entry member⟩
  · rintro ⟨before, after, split, earlier⟩
    refine ⟨(name, value), List.find?_eq_some_iff_append.mpr ?_, rfl⟩
    exact ⟨beq_self_eq_true name, before, after, split, by simpa using earlier⟩

/-- A table that is asked for a key in vain lacks it. -/
theorem get?_eq_none_iff {entries : Entries} {name : String} :
    entries.get? name = none ↔ Lacks entries name := by
  simp [Entries.get?, Lacks]

/-- The place of a name among different names. -/
theorem idxOf?_eq_some_iff {names : List String} (distinct : names.Nodup) {name : String}
    {place : Nat} : names.idxOf? name = some place ↔ names[place]? = some name := by
  rw [List.idxOf?_eq_some_iff]
  constructor
  · rintro ⟨inside, same, -⟩
    rw [List.getElem?_eq_getElem inside, same]
  · intro named
    obtain ⟨inside, same⟩ := List.getElem?_eq_some_iff.mp named
    refine ⟨inside, same, fun earlier before again => ?_⟩
    have further : earlier = place := distinct.getElem_inj_iff.mp (again.trans same.symm)
    omega

/-- There are fields to read exactly in a section. -/
theorem readFields_isSome_iff {names : List String} {held : Value} :
    (readFields names held).isSome ↔ IsSection held := by
  cases held with
  | table origin entries => exact iff_of_true rfl (.table origin entries)
  | array growing items => exact iff_of_true rfl (.array growing items)
  | dateTime text => exact iff_of_true rfl (.dateTime text)
  | string | integer | float | boolean => exact iff_of_false nofun nofun

/-- The fields of a section are the values that its keys have. -/
theorem field_iff_has {names : List String} (distinct : names.Nodup) {held : Value}
    {fields : Fields} (keyed : readFields names held = some fields) {name : String}
    {value : Value} : fields name = some value ↔ Has names name value held := by
  cases held with
  | table origin entries =>
    obtain rfl := Option.some.inj keyed
    rw [get?_eq_some_iff]
    exact ⟨.byName, fun | .byName given => given⟩
  | array growing items =>
    obtain rfl := Option.some.inj keyed
    rw [Option.bind_eq_some_iff]
    constructor
    · rintro ⟨place, named, given⟩
      exact .byPlace ((idxOf?_eq_some_iff distinct).mp named) given
    · rintro (_ | ⟨named, given⟩)
      exact ⟨_, (idxOf?_eq_some_iff distinct).mpr named, given⟩
  | dateTime text =>
    obtain rfl := Option.some.inj keyed
    exact iff_of_false nofun nofun
  | string | integer | float | boolean => exact nomatch keyed

section Fields

variable {α : Type} {names : List String} {held : Value} {fields : Fields} {name : String}
  {read : Value → Option α} {Spells : Value → α → Prop} {x : α}

/-- A key that is not among the fields is left out. -/
theorem field_eq_none_iff (distinct : names.Nodup) (keyed : readFields names held = some fields) :
    fields name = none ↔ ∀ value, ¬ Has names name value held := by
  rw [Option.eq_none_iff_forall_ne_some]
  exact forall_congr' fun value => not_congr (field_iff_has distinct keyed)

/-- A key that may be left out is read as it holds. -/
theorem field_eq_some_iff (reads : ∀ value x, read value = some x ↔ Spells value x)
    (distinct : names.Nodup) (keyed : readFields names held = some fields) {usual : α} :
    field fields name read usual = some x ↔ KeyHolds names held name Spells (some usual) x := by
  unfold field
  cases given : fields name with
  | none =>
    have absent := (field_eq_none_iff distinct keyed).mp given
    constructor
    · intro same
      exact .omitted absent same
    · rintro (⟨-, same⟩ | ⟨has, -⟩)
      · exact same
      · exact absurd has (absent _)
  | some value =>
    have has := (field_iff_has distinct keyed).mp given
    constructor
    · intro found
      exact .given has ((reads value x).mp found)
    · rintro (⟨absent, -⟩ | ⟨also, spells⟩)
      · exact absurd has (absent value)
      · rw [(field_iff_has distinct keyed).mpr also] at given
        obtain rfl := Option.some.inj given
        exact (reads _ x).mpr spells

/-- A key that has to be given is read as it holds. -/
theorem needed_eq_some_iff (reads : ∀ value x, read value = some x ↔ Spells value x)
    (distinct : names.Nodup) (keyed : readFields names held = some fields) :
    needed fields name read = some x ↔ KeyHolds names held name Spells none x := by
  rw [needed, Option.bind_eq_some_iff]
  constructor
  · rintro ⟨value, given, found⟩
    exact .given ((field_iff_has distinct keyed).mp given) ((reads value x).mp found)
  · rintro (⟨-, nothing⟩ | ⟨has, spells⟩)
    · exact nomatch nothing
    · exact ⟨_, (field_iff_has distinct keyed).mpr has, (reads _ x).mpr spells⟩

end Fields

/-! ## Values -/

/-- A text spells itself. -/
def SpellsText (value : Value) (text : String) : Prop := value = .string text

/-- True and false spell themselves. -/
def SpellsFlag (value : Value) (flag : Bool) : Prop := value = .boolean flag

/-- A whole number spells itself, if it is from `low` on and below `high`. -/
def SpellsNumber (low high : Int) (value : Value) (number : Int) : Prop :=
  value = .integer number ∧ low ≤ number ∧ number < high

/-- A natural number spells itself, if it is below a size. -/
def SpellsWord (size : Nat) (value : Value) (number : Nat) : Prop :=
  value = .integer number ∧ number < size

/-- A port is spelled by its number. -/
def SpellsPort (value : Value) (port : UInt16) : Prop := value = .integer port.toNat

/-- An array spells the list of what its items spell. -/
def SpellsList {α : Type} (Spells : Value → α → Prop) (value : Value) (list : List α) : Prop :=
  ∃ growing items, value = .array growing items ∧ List.Forall₂ Spells items list

/-- A value for what may also be missing. -/
def SpellsSome {α : Type} (Spells : Value → α → Prop) (value : Value) (x : Option α) : Prop :=
  ∃ y, x = some y ∧ Spells value y

/-- An action is spelled by its name, or by a table with nothing but its name, under which there is
nothing. -/
inductive SpellsAction : Value → Filter.Action → Prop where
  | named (action : Filter.Action) : SpellsAction (.string action.configName) action
  | table (outer inner : Origin) (action : Filter.Action) :
    SpellsAction (.table outer [(action.configName, .table inner [])]) action
  | array (outer : Origin) (growing : Bool) (action : Filter.Action) :
    SpellsAction (.table outer [(action.configName, .array growing [])]) action

/-- The keys of a resolver, in their order. -/
def resolverNames : List String := ["id", "name", "address", "port", "priority"]

/-- A section spells a resolver. Its identifier and its address have to be given. -/
structure SpellsResolver (value : Value) (resolver : Resolver.Description) : Prop where
  isSection : IsSection value
  id : KeyHolds resolverNames value "id" SpellsText none resolver.id
  name : KeyHolds resolverNames value "name" SpellsText (some "") resolver.name
  address : KeyHolds resolverNames value "address" SpellsText none resolver.address
  port : KeyHolds resolverNames value "port" SpellsPort (some 53) resolver.port
  priority : KeyHolds resolverNames value "priority" (SpellsNumber (-2147483648) 2147483648)
    (some 0) resolver.priority

/-- The keys of a rule, in their order. -/
def ruleNames : List String := ["id", "category", "action", "domains", "redirect_ip"]

/-- A section spells a rule. Its identifier and its action have to be given. -/
structure SpellsRule (value : Value) (rule : Filter.Rule) : Prop where
  isSection : IsSection value
  id : KeyHolds ruleNames value "id" SpellsText none rule.id
  category : KeyHolds ruleNames value "category" (SpellsSome SpellsText) (some none) rule.category
  action : KeyHolds ruleNames value "action" SpellsAction none rule.action
  domains : KeyHolds ruleNames value "domains" (SpellsList SpellsText) (some []) rule.domains
  redirectTarget : KeyHolds ruleNames value "redirect_ip" (SpellsSome SpellsText) (some none)
    rule.redirectTarget

/-- Texts are read as what they spell. -/
theorem readText_iff (value : Value) (text : String) :
    readText value = some text ↔ SpellsText value text := by
  cases value <;> simp [readText, SpellsText]

/-- Flags are read as what they spell. -/
theorem readFlag_iff (value : Value) (flag : Bool) :
    readFlag value = some flag ↔ SpellsFlag value flag := by
  cases value <;> simp [readFlag, SpellsFlag]

/-- Numbers are read as what they spell. -/
theorem readNumber_iff (low high : Int) (value : Value) (number : Int) :
    readNumber low high value = some number ↔ SpellsNumber low high value number := by
  cases value with
  | integer given =>
    simp only [readNumber, SpellsNumber, Option.ite_none_right_eq_some, Option.some.injEq,
      Value.integer.injEq]
    constructor
    · rintro ⟨within, rfl⟩
      exact ⟨rfl, within⟩
    · rintro ⟨rfl, within⟩
      exact ⟨within, rfl⟩
  | string | float | boolean | dateTime | array | table => simp [readNumber, SpellsNumber]

/-- Natural numbers are read as what they spell. -/
theorem readWord_iff (size : Nat) (value : Value) (number : Nat) :
    readWord size value = some number ↔ SpellsWord size value number := by
  rw [readWord, Option.map_eq_some_iff]
  simp only [readNumber_iff, SpellsNumber, SpellsWord]
  constructor
  · rintro ⟨given, ⟨rfl, natural, small⟩, rfl⟩
    refine ⟨by rw [Int.toNat_of_nonneg natural], ?_⟩
    omega
  · rintro ⟨rfl, small⟩
    exact ⟨number, ⟨rfl, Int.natCast_nonneg number, by omega⟩, Int.toNat_natCast number⟩

/-- Ports are read as what they spell. -/
theorem readPort_iff (value : Value) (port : UInt16) :
    readPort value = some port ↔ SpellsPort value port := by
  rw [readPort, Option.map_eq_some_iff]
  simp only [readWord_iff, SpellsWord, SpellsPort]
  constructor
  · rintro ⟨number, ⟨rfl, small⟩, rfl⟩
    exact congrArg (Value.integer ∘ Nat.cast) (UInt16.toNat_ofNat_of_lt small).symm
  · rintro rfl
    exact ⟨port.toNat, ⟨rfl, port.toNat_lt_size⟩, UInt16.ofNat_toNat⟩

/-- Items that are all read are read as what they spell. -/
theorem mapM_eq_some_iff {α : Type} {read : Value → Option α} {Spells : Value → α → Prop}
    (reads : ∀ value x, read value = some x ↔ Spells value x) {items : List Value}
    {list : List α} : items.mapM read = some list ↔ List.Forall₂ Spells items list := by
  induction items generalizing list with
  | nil => simp [eq_comm]
  | cons item rest ih =>
    simp only [List.mapM_cons, Option.pure_def, Option.bind_eq_bind, Option.bind_eq_some_iff,
      Option.some.injEq, reads, ih]
    constructor
    · rintro ⟨x, spells, others, all, rfl⟩
      exact .cons spells all
    · rintro (_ | ⟨spells, all⟩)
      exact ⟨_, spells, _, all, rfl⟩

/-- Lists are read as what they spell, if their items are. -/
theorem readList_iff {α : Type} {read : Value → Option α} {Spells : Value → α → Prop}
    (reads : ∀ value x, read value = some x ↔ Spells value x) (value : Value) (list : List α) :
    readList read value = some list ↔ SpellsList Spells value list := by
  cases value with
  | array growing items =>
    rw [readList, mapM_eq_some_iff reads]
    constructor
    · intro all
      exact ⟨growing, items, rfl, all⟩
    · rintro ⟨_, _, ⟨⟩, all⟩
      exact all
  | string | integer | float | boolean | dateTime | table => simp [readList, SpellsList]

/-- A value that may also be missing is read as what it spells. -/
theorem readSome_iff {α : Type} {read : Value → Option α} {Spells : Value → α → Prop}
    (reads : ∀ value x, read value = some x ↔ Spells value x) (value : Value) (x : Option α) :
    (read value).map some = some x ↔ SpellsSome Spells value x := by
  rw [Option.map_eq_some_iff]
  unfold SpellsSome
  constructor
  · rintro ⟨y, found, rfl⟩
    exact ⟨y, rfl, (reads value y).mp found⟩
  · rintro ⟨y, rfl, spells⟩
    exact ⟨y, (reads value y).mpr spells, rfl⟩

/-- Only the name of an action is read as that action. -/
theorem ofConfigName?_eq_some_iff {name : String} {action : Filter.Action} :
    Filter.Action.ofConfigName? name = some action ↔ name = action.configName := by
  constructor
  · intro found
    unfold Filter.Action.ofConfigName? at found
    split at found
    · obtain rfl := Option.some.inj found
      rfl
    · obtain rfl := Option.some.inj found
      rfl
    · obtain rfl := Option.some.inj found
      rfl
    · exact nomatch found
  · rintro rfl
    exact Filter.Action.ofConfigName?_configName action

/-- Actions are read as what they spell. -/
theorem readAction_iff (value : Value) (action : Filter.Action) :
    readAction value = some action ↔ SpellsAction value action := by
  constructor
  · intro found
    unfold readAction at found
    split at found
    · obtain rfl := ofConfigName?_eq_some_iff.mp found
      exact .named action
    · obtain rfl := ofConfigName?_eq_some_iff.mp found
      exact .table _ _ action
    · obtain rfl := ofConfigName?_eq_some_iff.mp found
      exact .array _ _ action
    · exact nomatch found
  · intro spells
    cases spells <;> exact Filter.Action.ofConfigName?_configName action

/-- A section is read if its fields are. -/
theorem readFields_bind_iff {S : Type} {names : List String} {value : Value}
    {build : Fields → Option S} {x : S} (holds : Prop)
    (builds : ∀ fields, readFields names value = some fields → (build fields = some x ↔ holds)) :
    (readFields names value).bind build = some x ↔ IsSection value ∧ holds := by
  rw [← readFields_isSome_iff]
  cases keyed : readFields names value with
  | none => simp
  | some fields => simp [builds fields keyed]

/-- Resolvers are read as what they spell. -/
theorem readResolver_iff (value : Value) (resolver : Resolver.Description) :
    readResolver value = some resolver ↔ SpellsResolver value resolver := by
  have distinct : resolverNames.Nodup := by decide
  refine (readFields_bind_iff
    (KeyHolds resolverNames value "id" SpellsText none resolver.id ∧
      KeyHolds resolverNames value "name" SpellsText (some "") resolver.name ∧
      KeyHolds resolverNames value "address" SpellsText none resolver.address ∧
      KeyHolds resolverNames value "port" SpellsPort (some 53) resolver.port ∧
      KeyHolds resolverNames value "priority" (SpellsNumber (-2147483648) 2147483648) (some 0)
        resolver.priority) fun fields keyed => ?_).trans ?_
  · obtain ⟨id, name, address, port, priority⟩ := resolver
    simp [Option.bind_eq_some_iff, needed_eq_some_iff readText_iff distinct keyed,
      field_eq_some_iff readText_iff distinct keyed, field_eq_some_iff readPort_iff distinct keyed,
      field_eq_some_iff (readNumber_iff _ _) distinct keyed]
  · constructor
    · rintro ⟨isSection, id, name, address, port, priority⟩
      exact ⟨isSection, id, name, address, port, priority⟩
    · rintro ⟨isSection, id, name, address, port, priority⟩
      exact ⟨isSection, id, name, address, port, priority⟩

/-- Rules are read as what they spell. -/
theorem readRule_iff (value : Value) (rule : Filter.Rule) :
    readRule value = some rule ↔ SpellsRule value rule := by
  have distinct : ruleNames.Nodup := by decide
  refine (readFields_bind_iff
    (KeyHolds ruleNames value "id" SpellsText none rule.id ∧
      KeyHolds ruleNames value "category" (SpellsSome SpellsText) (some none) rule.category ∧
      KeyHolds ruleNames value "action" SpellsAction none rule.action ∧
      KeyHolds ruleNames value "domains" (SpellsList SpellsText) (some []) rule.domains ∧
      KeyHolds ruleNames value "redirect_ip" (SpellsSome SpellsText) (some none)
        rule.redirectTarget) fun fields keyed => ?_).trans ?_
  · obtain ⟨id, category, action, domains, redirectTarget⟩ := rule
    simp [Option.bind_eq_some_iff, needed_eq_some_iff readText_iff distinct keyed,
      needed_eq_some_iff readAction_iff distinct keyed,
      field_eq_some_iff (readSome_iff readText_iff) distinct keyed,
      field_eq_some_iff (readList_iff readText_iff) distinct keyed]
  · constructor
    · rintro ⟨isSection, id, category, action, domains, redirectTarget⟩
      exact ⟨isSection, id, category, action, domains, redirectTarget⟩
    · rintro ⟨isSection, id, category, action, domains, redirectTarget⟩
      exact ⟨isSection, id, category, action, domains, redirectTarget⟩

end Config

end DnsForwarder
