import DnsForwarder.Engine
import DnsForwarder.Proofs.Filter.Names

/-!
# What a blocklist refuses

An engine with a blocklist refuses a request whose first name is on the list, before it asks the
policy or the resolvers, and it refuses no other request so
(`DnsForwarder.Engine.refusedOutright_iff`). So it refuses the names at or below one that is listed
as it is written (`DnsForwarder.Engine.refuses_below_written`), and those at or below a listed host
name, unless a label of that starts with a hyphen (`DnsForwarder.Engine.refuses_below_listed`). A
name that it refuses is at or below the entry that it matches, unless that has a backslash or a
label of the name has a dot in it (`DnsForwarder.Engine.refused_below_entry`).
-/

namespace DnsForwarder

namespace Engine

/-- A request is to the policy or to the resolvers. -/
def Request.goesOn : Request → Bool
  | .decide _ | .forward .. => true
  | _ => false

/-- The reply to a request is a refusal that neither the policy nor the resolvers have been asked
about. -/
def RefusedOutright {σ : Type} (request : Message)
    (outcome : Dialogue.Outcome interface σ (Option Message)) : Prop :=
  outcome.value = some request.refused ∧ ∀ asked ∈ outcome.asked, asked.goesOn = false

/-- The engine with a blocklist; its policy stays what it is. -/
def withBlocklist (engine : Engine) (blocklist : Filter.Blocklist) : Engine :=
  { engine with filters :=
    { engine.filters with isBlocked := some fun domain => .ok (blocklist.contains domain) } }

/-- What becomes of a datagram at an engine with a list of domains, but without rules and
resolvers. -/
def outcomeOfDatagram (domains : List String) (request : Message) :
    Dialogue.Outcome interface (Engine × Unit) (Option Message) :=
  let engine : Engine :=
    { filters := .ofLists none (.load true []), metrics := .start 300000 30000 0 }
  (engine.withBlocklist (.ofList domains)).process ⟨0, 0⟩
    (fun _ _ _ state => (.error .noHealthyServers, state)) () request
      (.v4 ⟨192, 0, 2, 7⟩ 40000) .udp

section Process

variable {σ : Type} (timing : Timing) (forwarder : Forwarder σ) (resolvers : σ) (engine : Engine)
  (blocklist : Filter.Blocklist)

/-- The blocklist is asked first, and what it contains is refused on its word. -/
theorem run_consultFilters (query : Query) :
    let filtered := engine.withBlocklist blocklist
    let rest := if blocklist.contains query.domain then query.refuse "blocklist"
      else query.consultPolicy filtered.settings
    let ending := rest.run (I := interface) (tell timing forwarder) (filtered, resolvers)
    (query.consultFilters filtered.settings).run (I := interface) (tell timing forwarder)
        (filtered, resolvers) =
      { ending with asked := .isBlocked query.domain :: ending.asked } := by
  intro filtered rest ending
  have told : tell timing forwarder (.isBlocked query.domain) (filtered, resolvers) =
      (.ok (blocklist.contains query.domain), filtered, resolvers) := rfl
  have present : filtered.settings.hasBlocklist = true := rfl
  rw [Query.consultFilters, if_pos present, Dialogue.run, told]
  simp only [ending, rest]
  cases blocklist.contains query.domain with
  | true => rfl
  | false => rfl

variable (request : Message) (client : Net.SocketAddress) (transport : Transport)

/-- Refusals by the blocklist and only they leave the policy and the resolvers alone. -/
theorem refusedOutright_iff :
    RefusedOutright request
      ((engine.withBlocklist blocklist).process timing forwarder resolvers request
        client transport) ↔
      ∃ question, request.questions.head? = some question ∧
        blocklist.contains (toString question.name) := by
  rw [process, answer]
  cases request.questions.head? with
  | none =>
    refine iff_of_false ?_ ?_
    · rintro ⟨reply, -⟩
      exact Option.some_ne_none _ reply.symm
    · rintro ⟨question, same, -⟩
      exact Option.some_ne_none question same.symm
  | some question =>
    dsimp only
    rw [RefusedOutright, Dialogue.run_bind, run_consultFilters]
    dsimp only
    cases contained : blocklist.contains (toString question.name) with
    | true =>
      rw [if_pos rfl]
      refine iff_of_true ⟨rfl, ?_⟩ ⟨question, rfl, contained⟩
      simp only [Query.refuse, Dialogue.run, List.cons_append, List.nil_append,
        List.forall_mem_cons, Request.goesOn, List.not_mem_nil, false_imp_iff,
        implies_true, and_self]
    | false =>
      rw [if_neg Bool.false_ne_true, Query.consultPolicy]
      refine iff_of_false ?_ ?_
      · rintro ⟨-, alone⟩
        have asked := alone (.decide (toString question.name))
          (List.mem_cons_of_mem _ (List.mem_append_left _ List.mem_cons_self))
        exact Bool.false_ne_true asked.symm
      · rintro ⟨_, same, listed⟩
        obtain rfl := Option.some.inj same
        exact Bool.false_ne_true (contained.symm.trans listed)

/-- A request for a name at or below a name that is listed as it is written is refused outright,
whatever octets the labels have. -/
theorem refuses_below_written (domains : List String) (name : Name) (labels : name.labels ≠ [])
    (plain : ∀ rest, name.text ≠ '*' :: '.' :: rest) (listed : toString name ∈ domains)
    (question : Question) (first : request.questions.head? = some question)
    (below : name.lowercase.labels <:+ question.name.lowercase.labels) :
    RefusedOutright request
      ((engine.withBlocklist (.ofList domains)).process timing forwarder resolvers request client
        transport) := by
  have like : Filter.normalForm (toString name).toList = Filter.normalForm name.text :=
    congrArg Filter.normalForm String.toList_ofList
  refine (refusedOutright_iff _ _ _ _ _ _ _ _).mpr ⟨question, first, ?_⟩
  exact Filter.contains_of_below listed labels plain like below

/-- A request for a name at or below a listed host name is refused outright, if no label of the
listed name starts with a hyphen. -/
theorem refuses_below_listed (domains : List String) (name : Name) (labels : name.labels ≠ [])
    (host : ∀ label ∈ name.labels, ∀ octet ∈ label, Name.isHostOctet octet)
    (start : ∀ label ∈ name.labels, label.head? ≠ some Name.hyphen)
    (listed : name.dottedText ∈ domains) (question : Question)
    (first : request.questions.head? = some question)
    (below : name.lowercase.labels <:+ question.name.lowercase.labels) :
    RefusedOutright request
      ((engine.withBlocklist (.ofList domains)).process timing forwarder resolvers request client
        transport) := by
  refine (refusedOutright_iff _ _ _ _ _ _ _ _).mpr ⟨question, first, ?_⟩
  exact Filter.contains_of_host listed labels host start below

/-- The blocklist `ad` refuses the name `x.AD`. -/
theorem refuses_below_listed_ad :
    let name : Name := ⟨[[97, 100]], by decide, by decide⟩
    let question : Question :=
      ⟨⟨[[120], [65, 68]], by decide, by decide⟩, RecordType.a, classInternet⟩
    let request : Message := { id := 7, questions := [question] }
    name.dottedText ∈ ["ad"] ∧ name.lowercase.labels <:+ question.name.lowercase.labels ∧
      RefusedOutright request (outcomeOfDatagram ["ad"] request) := by
  intro name question request
  have listed : name.dottedText ∈ ["ad"] := by decide +kernel
  have below : name.lowercase.labels <:+ question.name.lowercase.labels := ⟨[[120]], rfl⟩
  exact ⟨listed, below,
    refuses_below_listed _ _ _ _ request _ _ ["ad"] name (by decide) (by decide +kernel) (by decide)
      listed question rfl below⟩

/-- The blocklist `-ad` does not refuse the name `-ad`, which is written with a backslash. -/
theorem refuses_below_listed_hyphen :
    let name : Name := ⟨[[45, 97, 100]], by decide, by decide⟩
    let request : Message := { id := 7, questions := [⟨name, RecordType.a, classInternet⟩] }
    (∀ label ∈ name.labels, ∀ octet ∈ label, Name.isHostOctet octet) ∧ name.dottedText = "-ad" ∧
      ¬ RefusedOutright request (outcomeOfDatagram ["-ad"] request) := by
  intro name request
  refine ⟨by decide +kernel, by decide +kernel, ?_⟩
  rw [outcomeOfDatagram, refusedOutright_iff]
  rintro ⟨question, first, contained⟩
  obtain rfl := Option.some.inj first
  rw [Filter.DomainSet.contains_ofList] at contained
  exact absurd contained (by decide +kernel)

/-- A request is refused outright if its first name matches an entry, and only then. Unless the
entry that it matches has a backslash, the name is at or below that entry, or below a part of a
label that follows a dot in it. So a name is at or below an entry, or the blocklist does not refuse
it, if no label has a dot and the name matches no entry with a backslash, and in particular if the
name is written without backslashes. -/
theorem refused_below_entry (domains : List String) :
    let refused := RefusedOutright request ((engine.withBlocklist (.ofList domains)).process timing
      forwarder resolvers request client transport)
    (refused ↔ ∃ question, request.questions.head? = some question ∧
      ∃ entry ∈ domains, Filter.Matches question.name entry) ∧
    ∀ question, request.questions.head? = some question →
      (∀ entry ∈ domains, Filter.Matches question.name entry →
        Name.escape ∈ entry.toList ∨ Filter.AtOrBelowPart question.name entry) ∧
      ((∀ label ∈ question.name.labels, Name.dot ∉ label) →
        (∀ entry ∈ domains, Filter.Matches question.name entry → Name.escape ∉ entry.toList) →
        (∀ entry ∈ domains, ¬ Filter.AtOrBelow question.name entry) → ¬ refused) ∧
      (Name.escape ∉ question.name.text →
        (∀ entry ∈ domains, ¬ Filter.AtOrBelow question.name entry) → ¬ refused) := by
  intro refused
  have matched : refused ↔ ∃ question, request.questions.head? = some question ∧
      ∃ entry ∈ domains, Filter.Matches question.name entry := by
    simp only [refused, refusedOutright_iff, Filter.contains_iff_matches]
  -- An entry without a backslash has none in its normal form.
  have part {name : Name} {entry : String} (found : Filter.Matches name entry)
      (unescaped : Name.escape ∉ entry.toList) : Filter.AtOrBelowPart name entry :=
    found.atOrBelowPart fun escaped => unescaped (Filter.mem_of_mem_normalForm rfl escaped)
  refine ⟨matched, fun question first => ⟨fun entry present found => ?_, ?_, ?_⟩⟩
  · by_cases escaped : Name.escape ∈ entry.toList
    · exact .inl escaped
    · exact .inr (part found escaped)
  · intro undotted unescaped apart refusal
    obtain ⟨_, same, entry, present, found⟩ := matched.mp refusal
    obtain rfl := Option.some.inj (same.symm.trans first)
    exact apart entry present ((part found (unescaped entry present found)).atOrBelow undotted)
  · intro plain apart refusal
    obtain ⟨_, same, entry, present, found⟩ := matched.mp refusal
    obtain rfl := Option.some.inj (same.symm.trans first)
    have below := found.atOrBelowPart (found.escape_not_mem plain)
    exact apart entry present (below.atOrBelow (Name.dot_not_mem_of_unescaped plain))

/-- The blocklist `ad` refuses only names that end in `ad`, also with an entry that has a backslash
beside it: it refuses `x.AD`, but not `xad`. -/
theorem refused_below_entry_ad :
    let below : Question := ⟨⟨[[120], [65, 68]], by decide, by decide⟩, RecordType.a, classInternet⟩
    let apart : Question := ⟨⟨[[120, 97, 100]], by decide, by decide⟩, RecordType.a, classInternet⟩
    let asking (question : Question) : Message := { id := 7, questions := [question] }
    let domains := ["ad", "x\\.ad"]
    RefusedOutright (asking below) (outcomeOfDatagram domains (asking below)) ∧
      Filter.AtOrBelowPart below.name "ad" ∧
      ¬ RefusedOutright (asking apart) (outcomeOfDatagram domains (asking apart)) := by
  intro below apart asking domains
  have found : Filter.Matches below.name "ad" := by
    rw [Filter.matches_iff]
    decide +kernel
  have law (question : Question) :=
    refused_below_entry ⟨0, 0⟩ (fun _ _ _ state => (.error .noHealthyServers, state)) ()
      { filters := .ofLists none (.load true []), metrics := .start 300000 30000 0 }
      (asking question) (.v4 ⟨192, 0, 2, 7⟩ 40000) .udp domains
  have refused : RefusedOutright (asking below) (outcomeOfDatagram domains (asking below)) :=
    (law below).1.mpr ⟨below, rfl, "ad", List.mem_cons_self, found⟩
  have part := ((law below).2 below rfl).1 "ad" List.mem_cons_self found
  refine ⟨refused, part.resolve_left (by decide +kernel), ?_⟩
  refine ((law apart).2 apart rfl).2.1 (by decide) ?_ ?_
  · simp only [domains, List.forall_mem_cons, Filter.matches_iff]
    decide +kernel
  · simp only [domains, List.forall_mem_cons, Filter.AtOrBelow]
    decide +kernel

/-- The blocklist `com` refuses the single label `foo.com`, which is not at or below its entry. -/
theorem refused_below_entry_dot :
    let name : Name := ⟨[[102, 111, 111, 46, 99, 111, 109]], by decide, by decide⟩
    let request : Message := { id := 7, questions := [⟨name, RecordType.a, classInternet⟩] }
    (∀ entry ∈ ["com"], ¬ Filter.AtOrBelow name entry) ∧
      RefusedOutright request (outcomeOfDatagram ["com"] request) := by
  intro name request
  constructor
  · simp only [List.forall_mem_singleton, Filter.AtOrBelow]
    decide +kernel
  · rw [outcomeOfDatagram, refusedOutright_iff]
    refine ⟨_, rfl, ?_⟩
    rw [Filter.DomainSet.contains_ofList]
    decide +kernel

end Process

end Engine

end DnsForwarder
