import DnsForwarder.Message.Decoder
import DnsForwarder.Proofs.Engine.Forwarding
import DnsForwarder.Proofs.Engine.Gating
import DnsForwarder.Proofs.Filter.Coverage
import DnsForwarder.Proofs.Filter.Names

/-!
# Verdicts and the case of letters

With configured lists for filters, the lists alone give the verdict on a request, and the engine
carries it out (`DnsForwarder.Engine.carriedOut_process`). Requests whose names differ in the case
of letters only get the same verdict, and the replies that are made on the spot differ only in the
case of the names that they repeat (`DnsForwarder.Engine.verdict_ignores_case`).
-/

namespace DnsForwarder

/-- The question with its name in small letters. -/
def Question.lowercase (question : Question) : Question :=
  { question with name := question.name.lowercase }

/-- The record with its owner's name in small letters. The data stay what they are. -/
def Record.lowercase (record : Record) : Record := { record with name := record.name.lowercase }

namespace Message

/-- The message with the names of its questions and of the owners of its answers in small
letters. -/
def lowercase (message : Message) : Message :=
  { message with
    questions := message.questions.map Question.lowercase
    answers := message.answers.map Record.lowercase }

/-- Two requests agree in what replies repeat, but for the case of letters in the names that are
asked for. In what replies leave out they may differ, as they do if other names are written as
pointers into the first one. -/
structure AsksAlike (first second : Message) : Prop where
  id : second.id = first.id
  opcode : second.opcode = first.opcode
  recursionDesired : second.recursionDesired = first.recursionDesired
  questions : second.questions.map Question.lowercase = first.questions.map Question.lowercase

namespace AsksAlike

/-- Requests that differ in the case of letters in the first name only. -/
theorem of_first (request : Message) (question : Question) (rest : List Question)
    {name other : Name} (same : other.lowercase = name.lowercase) :
    AsksAlike { request with questions := { question with name } :: rest }
      { request with questions := { question with name := other } :: rest } where
  id := rfl
  opcode := rfl
  recursionDesired := rfl
  questions := by simp only [List.map_cons, Question.lowercase, same]

variable {first second : Message} (alike : first.AsksAlike second)

include alike

/-- The first questions are alike. -/
theorem head? :
    second.questions.head?.map Question.lowercase =
      first.questions.head?.map Question.lowercase := by
  rw [← List.head?_map, ← List.head?_map, alike.questions]

/-- If one request has a first question, the other has one with the same name up to case. -/
theorem exists_head? {asked : Question} (here : first.questions.head? = some asked) :
    ∃ other, second.questions.head? = some other ∧ asked.name.lowercase = other.name.lowercase := by
  have mapped := alike.head?
  rw [here, Option.map_some] at mapped
  obtain ⟨other, there, same⟩ := Option.map_eq_some_iff.mp mapped
  exact ⟨other, there, (congrArg Question.name same).symm⟩

/-- Replies without records to requests that are alike are alike. -/
theorem lowercase_replyTo (code : Fin 4096) :
    (second.replyTo code).lowercase = (first.replyTo code).lowercase := by
  simp only [lowercase, replyTo, alike.id, alike.opcode, alike.recursionDesired, alike.questions]

/-- Redirections of requests that are alike are alike. -/
theorem lowercase_redirect (target : Net.IPv4) :
    (second.redirect target).lowercase = (first.redirect target).lowercase := by
  have owned (request : Message) :
      (request.redirect target).lowercase =
        { (request.replyTo ResponseCode.noError).lowercase with
          answers := ((request.questions.head?.map Question.lowercase).map fun question =>
            ⟨question.name, classInternet, redirectTtl, .a target⟩).toList } := by
    simp only [lowercase, redirect]
    cases request.questions.head? <;> rfl
  rw [owned, owned, alike.head?, alike.lowercase_replyTo]

end AsksAlike

end Message

namespace Engine

open DnsForwarder.Filter (Rule Blocklist Policy normalize)

/-- What becomes of a query by a blocklist and the rules of a policy. A rule is told with its
place. -/
inductive Verdict where
  /-- The blocklist has the domain, and the query is refused. -/
  | blocked
  /-- A rule refuses the query. -/
  | denied (place : Nat) (rule : Rule)
  /-- A rule redirects the query to an address. -/
  | redirected (place : Nat) (rule : Rule) (target : Net.IPv4)
  /-- A rule redirects the query to a text that is no IPv4 address. -/
  | misdirected (place : Nat) (rule : Rule) (text : String)
  /-- Nothing keeps the query from the resolvers. -/
  | forwarded
deriving DecidableEq

namespace Verdict

/-- What the lists say about a domain amounts to the verdict. -/
def Holds (blocklist : Option Blocklist) (enabled : Bool) (rules : List Rule) (domain : String) :
    Verdict → Prop
  | .blocked => blocklist.any (·.contains domain) = true
  | .denied place rule =>
    blocklist.any (·.contains domain) = false ∧ enabled = true ∧
      Policy.RuledBy rules domain place rule ∧
      rule.action = .deny
  | .redirected place rule target =>
    blocklist.any (·.contains domain) = false ∧ enabled = true ∧
      Policy.RuledBy rules domain place rule ∧
      rule.action = .redirect ∧
      Net.IPv4.ofText? (Query.targetText rule.decision).toList = some target
  | .misdirected place rule text =>
    blocklist.any (·.contains domain) = false ∧ enabled = true ∧
      Policy.RuledBy rules domain place rule ∧
      rule.action = .redirect ∧ text = Query.targetText rule.decision ∧
      Net.IPv4.ofText? text.toList = none
  | .forwarded =>
    blocklist.any (·.contains domain) = false ∧
    ((Policy.load enabled rules).decide domain).action = .allow

/-- The reply to a request; it is made on the spot unless the resolvers answer what is forwarded. -/
def reply (request : Message) (answered : Except Error Message) : Verdict → Message
  | .blocked | .denied .. => request.refused
  | .redirected _ _ target => request.redirect target
  | .misdirected .. => request.serverFailure
  | .forwarded => relayed request answered

/-- The reason that is reported for a refusal or a redirection. -/
def reason? : Verdict → Option String
  | .blocked => some "blocklist"
  | .denied _ rule | .redirected _ rule _ | .misdirected _ rule _ => some rule.id
  | .forwarded => none

/-- The verdict is carried out, as the things that are asked for and the reply show. -/
structure CarriedOut (verdict : Verdict) (settings : Settings) (request : Message)
    (answered : Except Error Message) (asked : List Request) (reply : Option Message) : Prop where
  reply : reply = some (verdict.reply request answered)
  forwards : asked.filter Request.isForward =
    if verdict = .forwarded then [.forward request settings.timeoutMs settings.maxRetries] else []
  reported : ∀ reason, verdict.reason? = some reason →
    ∃ event, .report event ∈ asked ∧ ("reason", .text reason) ∈ event.fields
  noted : ∀ place rule text, verdict = .misdirected place rule text →
    .note (.invalidRedirectTarget text) ∈ asked

/-- There is a verdict on every domain. -/
theorem exists_holds (blocklist : Option Blocklist) (enabled : Bool) (rules : List Rule)
    (domain : String) :
    ∃ verdict : Verdict, verdict.Holds blocklist enabled rules domain := by
  cases listed : blocklist.any (·.contains domain) with
  | true => exact ⟨.blocked, listed⟩
  | false =>
    cases enabled with
    | false => exact ⟨.forwarded, listed, rfl⟩
    | true =>
      obtain ⟨place, rule, ruled⟩ | unruled := Policy.ruledBy_or_unruled rules domain
      · have decided := Policy.decide_of_ruledBy ruled
        cases action : rule.action with
        | allow =>
          exact ⟨.forwarded, listed, (congrArg Filter.Decision.action decided).trans action⟩
        | deny => exact ⟨.denied place rule, listed, rfl, ruled, action⟩
        | redirect =>
          cases target : Net.IPv4.ofText? (Query.targetText rule.decision).toList with
          | some address =>
            exact ⟨.redirected place rule address, listed, rfl, ruled, action, target⟩
          | none => exact ⟨.misdirected place rule _, listed, rfl, ruled, action, rfl, target⟩
      · exact ⟨.forwarded, listed,
          congrArg Filter.Decision.action (Policy.decide_of_unruled unruled true)⟩

section Holds

variable {blocklist : Option Blocklist} {enabled : Bool} {rules : List Rule} {domain : String}
  {verdict : Verdict} (holds : verdict.Holds blocklist enabled rules domain)

include holds

/-- There is one verdict on a domain. -/
theorem Holds.unique {also : Verdict} (too : also.Holds blocklist enabled rules domain) :
    verdict = also := by
  -- Two rules that decide are one, and what it decides has one action.
  have one := @Policy.RuledBy.unique rules domain
  have decided := @Policy.decide_of_ruledBy rules domain
  cases verdict <;> cases also <;> simp only [Holds] at holds too <;> grind [Rule.decision]

/-- The verdict is to block exactly if the blocklist contains the domain. -/
theorem Holds.eq_blocked_iff : verdict = .blocked ↔ blocklist.any (·.contains domain) = true := by
  cases verdict with
  | blocked => exact iff_of_true rfl holds
  | denied | redirected | misdirected | forwarded =>
    exact iff_of_false nofun (Bool.eq_false_iff.mp holds.1)

/-- Domains with the same normal form have the same verdict. -/
theorem Holds.congr {other : String} (same : normalize domain = normalize other) :
    verdict.Holds blocklist enabled rules other := by
  have listed : blocklist.any (·.contains other) = blocklist.any (·.contains domain) :=
    congrArg blocklist.any (funext fun set => (Filter.DomainSet.contains_congr same set).symm)
  have decided := Policy.decide_congr same (.load enabled rules)
  cases verdict <;> simp only [Holds, listed, ← decided] at holds ⊢
  case blocked => exact holds
  case denied | redirected | misdirected =>
    exact ⟨holds.1, holds.2.1, holds.2.2.1.congr same, holds.2.2.2⟩
  case forwarded => exact holds

end Holds

/-- The replies that are made on the spot differ in the case of the repeated names only. -/
theorem lowercase_reply (verdict : Verdict) {first second : Message}
    (alike : first.AsksAlike second) {answered other : Except Error Message}
    (made : verdict = .forwarded → answered.isOk = false ∧ other.isOk = false) :
    (verdict.reply second other).lowercase = (verdict.reply first answered).lowercase := by
  cases verdict with
  | blocked | denied => exact alike.lowercase_replyTo _
  | redirected place rule target => exact alike.lowercase_redirect target
  | misdirected => exact alike.lowercase_replyTo _
  | forwarded =>
    obtain ⟨failed, also⟩ := made rfl
    cases answered with
    | ok response => exact absurd failed Bool.true_eq_false.mp
    | error error =>
      cases other with
      | ok response => exact absurd also Bool.true_eq_false.mp
      | error error => exact alike.lowercase_replyTo _

section CarriedOut

variable {verdict : Verdict} {settings : Settings} {request : Message}
  {answered : Except Error Message} {asked all : List Request} {given : Option Message}

/-- Of what is forwarded, nothing else has to be said. -/
theorem CarriedOut.of_forwarded (reply : given = some (relayed request answered))
    (forwards : asked.filter Request.isForward =
      [.forward request settings.timeoutMs settings.maxRetries]) :
    Verdict.forwarded.CarriedOut settings request answered asked given where
  reply := reply
  forwards := forwards
  reported := nofun
  noted := nofun

/-- It does not matter what else is asked for, as long as nothing else is forwarded. -/
theorem CarriedOut.mono (carried : verdict.CarriedOut settings request answered asked given)
    (kept : asked ⊆ all)
    (forwards : all.filter Request.isForward = asked.filter Request.isForward) :
    verdict.CarriedOut settings request answered all given where
  reply := carried.reply
  forwards := forwards.trans carried.forwards
  reported := by
    intro reason same
    obtain ⟨event, member, field⟩ := carried.reported reason same
    exact ⟨event, kept member, field⟩
  noted := fun place rule text same => kept (carried.noted place rule text same)

/-- Something else may be asked before a verdict is carried out. -/
theorem CarriedOut.cons (carried : verdict.CarriedOut settings request answered asked given)
    {before : Request} (aside : before.isForward = false) :
    verdict.CarriedOut settings request answered (before :: asked) given :=
  carried.mono (List.subset_cons_self _ _) (List.filter_cons_of_neg (Bool.eq_false_iff.mp aside))

/-- Something else may be asked after a verdict is carried out. -/
theorem CarriedOut.concat (carried : verdict.CarriedOut settings request answered asked given)
    {after : Request} (aside : after.isForward = false) :
    verdict.CarriedOut settings request answered (asked ++ [after]) given := by
  refine carried.mono (List.subset_append_left _ _) ?_
  rw [List.filter_append, List.filter_cons_of_neg (Bool.eq_false_iff.mp aside), List.filter_nil,
    List.append_nil]

end CarriedOut

end Verdict

section Query

variable {σ : Type} (answer : (r : Request) → σ → r.Answer × σ) (state : σ) (query : Query)
  (settings : Settings)

/-- A step that ends a query carries the verdict out. -/
def CarriedOutBy (verdict : Verdict) (answered : Except Error Message)
    (step : Dialogue interface Ending) : Prop :=
  let outcome := step.run (I := interface) answer state
  verdict.CarriedOut settings query.request answered outcome.asked outcome.value.reply

/-- A step that does not go to the resolvers may be put before those that carry a verdict out. -/
theorem CarriedOutBy.ask {verdict : Verdict} {answered : Except Error Message} {request : Request}
    {told : request.Answer} {after : σ} (tells : answer request state = (told, after))
    (aside : request.isForward = false) {next : request.Answer → Dialogue interface Ending}
    (rest : CarriedOutBy answer after query settings verdict answered (next told)) :
    CarriedOutBy answer state query settings verdict answered (.ask request next) := by
  rw [CarriedOutBy, Dialogue.run, tells]
  exact rest.cons aside

variable (answered : Except Error Message) (place : Nat) (rule : Rule)

/-- Refusing a query carries out that it is blocked. -/
theorem carriedOut_blocked :
    CarriedOutBy answer state query settings .blocked answered (query.refuse "blocklist") where
  reply := rfl
  forwards := rfl
  reported := by
    rintro _ ⟨⟩
    exact ⟨_, List.mem_cons_self, by simp [Event.info]⟩
  noted := nofun

/-- Refusing a query for a rule carries out that the rule denies it. -/
theorem carriedOut_denied :
    CarriedOutBy answer state query settings (.denied place rule) answered
      (query.refuse rule.decision.reason) where
  reply := rfl
  forwards := rfl
  reported := by
    rintro _ ⟨⟩
    exact ⟨_, List.mem_cons_self, by simp [Event.info, Filter.Decision.reason, Rule.decision]⟩
  noted := nofun

/-- A redirection with a readable target carries out that the query goes there. -/
theorem carriedOut_redirected {target : Net.IPv4}
    (readable : Net.IPv4.ofText? (Query.targetText rule.decision).toList = some target) :
    CarriedOutBy answer state query settings (.redirected place rule target) answered
      (query.redirect rule.decision) := by
  rw [Query.redirect]
  dsimp only
  rw [readable]
  refine ⟨rfl, rfl, ?_, ?_⟩
  · rintro _ ⟨⟩
    exact ⟨_, List.mem_cons_self, by simp [Event.info, Filter.Decision.reason, Rule.decision]⟩
  · rintro _ _ _ ⟨⟩

/-- A redirection with an unreadable target carries out that the query leads nowhere. -/
theorem carriedOut_misdirected {text : String} (same : text = Query.targetText rule.decision)
    (unreadable : Net.IPv4.ofText? text.toList = none) :
    CarriedOutBy answer state query settings (.misdirected place rule text) answered
      (query.redirect rule.decision) := by
  rw [Query.redirect]
  dsimp only
  rw [← same, unreadable]
  refine ⟨rfl, rfl, ?_, ?_⟩
  · rintro _ ⟨⟩
    exact ⟨_, List.mem_cons_self, by simp [Event.error, Filter.Decision.reason, Rule.decision]⟩
  · rintro _ _ _ ⟨⟩
    exact List.mem_cons_of_mem _ List.mem_cons_self

/-- Forwarding a query carries out that nothing keeps it from the resolvers. -/
theorem carriedOut_forwarded :
    CarriedOutBy answer state query settings .forwarded
      (answer (.forward query.request settings.timeoutMs settings.maxRetries) state).1
      (query.forward settings) := by
  rw [Query.forward, CarriedOutBy, Dialogue.run]
  generalize answer (.forward query.request settings.timeoutMs settings.maxRetries) state = told
  obtain ⟨answered, after⟩ := told
  cases answered with
  | ok response => exact .of_forwarded rfl rfl
  | error error => exact .of_forwarded rfl rfl

end Query

section Process

variable {σ : Type} (timing : Timing) (forwarder : Forwarder σ) (resolvers : σ) {engine : Engine}
  {blocklist : Option Blocklist} {enabled : Bool} {rules : List Rule}
  (lists : engine.filters = .ofLists blocklist (.load enabled rules)) {verdict : Verdict}

include lists

/-- The policy carries out each verdict but that of the blocklist. -/
theorem carriedOut_consultPolicy (query : Query)
    (holds : verdict.Holds blocklist enabled rules query.domain) (passed : verdict ≠ .blocked) :
    CarriedOutBy (tell timing forwarder) (engine, resolvers) query engine.settings verdict
      (forwarder query.request engine.timeoutMs engine.maxRetries resolvers).1
      (query.consultPolicy engine.settings) := by
  have told : tell timing forwarder (.decide query.domain) (engine, resolvers) =
      (.ok ((Policy.load enabled rules).decide query.domain), (engine, resolvers)) := by
    simp only [tell, lists]
    rfl
  refine CarriedOutBy.ask _ _ query _ told rfl ?_
  dsimp only
  cases verdict with
  | blocked => exact absurd rfl passed
  | denied place rule =>
    obtain ⟨-, rfl, ruled, action⟩ := holds
    rw [Policy.decide_of_ruledBy ruled, show rule.decision.action = .deny from action]
    exact carriedOut_denied _ _ query _ _ place rule
  | redirected place rule target =>
    obtain ⟨-, rfl, ruled, action, readable⟩ := holds
    rw [Policy.decide_of_ruledBy ruled, show rule.decision.action = .redirect from action]
    exact carriedOut_redirected _ _ query _ _ place rule readable
  | misdirected place rule text =>
    obtain ⟨-, rfl, ruled, action, same, unreadable⟩ := holds
    rw [Policy.decide_of_ruledBy ruled, show rule.decision.action = .redirect from action]
    exact carriedOut_misdirected _ _ query _ _ place rule same unreadable
  | forwarded =>
    obtain ⟨-, action⟩ := holds
    rw [action]
    exact carriedOut_forwarded _ _ query engine.settings

/-- The blocklist is asked first, if there is one. -/
theorem carriedOut_consultFilters (query : Query)
    (holds : verdict.Holds blocklist enabled rules query.domain) :
    CarriedOutBy (tell timing forwarder) (engine, resolvers) query engine.settings verdict
      (forwarder query.request engine.timeoutMs engine.maxRetries resolvers).1
      (query.consultFilters engine.settings) := by
  have policed := carriedOut_consultPolicy timing forwarder resolvers lists query holds
  have present : engine.settings.hasBlocklist = blocklist.isSome := by
    rw [settings, lists]
    exact Option.isSome_map
  have listed := holds.eq_blocked_iff
  rw [Query.consultFilters, present]
  cases blocklist with
  | none => exact policed fun blocked => Bool.false_ne_true (listed.mp blocked)
  | some set =>
    have told : tell timing forwarder (.isBlocked query.domain) (engine, resolvers) =
        (.ok (set.contains query.domain), (engine, resolvers)) := by
      simp only [tell, lists]
      rfl
    rw [if_pos Option.isSome_some]
    refine CarriedOutBy.ask _ _ query _ told rfl ?_
    rw [Option.any_some] at listed
    cases contained : set.contains query.domain with
    | true =>
      obtain rfl := listed.mpr contained
      exact carriedOut_blocked _ _ query _ _
    | false =>
      rw [contained] at listed
      exact policed fun blocked => Bool.false_ne_true (listed.mp blocked)

/-- A request with a question gets the verdict that the lists give on the name of its first
question. -/
theorem carriedOut_process {request : Message} (client : Net.SocketAddress) (transport : Transport)
    {question : Question} (first : request.questions.head? = some question)
    (holds : verdict.Holds blocklist enabled rules (toString question.name)) :
    let outcome := engine.process timing forwarder resolvers request client transport
    verdict.CarriedOut engine.settings request
      (forwarder request engine.timeoutMs engine.maxRetries resolvers).1 outcome.asked
        outcome.value := by
  intro outcome
  let query : Query := { request, domain := toString question.name, client, transport }
  have filtered := carriedOut_consultFilters timing forwarder resolvers lists query holds
  have whole :=
    process_eq_of_question timing forwarder resolvers engine request client transport first
  rw [show outcome = _ from whole]
  exact filtered.concat rfl

end Process

/-- When, whence and how a request comes, to an engine with these records and timeouts, and what the
resolvers answer meanwhile. -/
structure Circumstances (σ : Type) where
  engine : Engine
  timing : Timing
  forwarder : Forwarder σ
  resolvers : σ
  client : Net.SocketAddress
  transport : Transport

namespace Circumstances

variable {σ : Type} (circumstances : Circumstances σ) (filters : Filters) (request : Message)

/-- What the resolvers answer to the request if it is forwarded to them. -/
def answered : Except Error Message :=
  (circumstances.forwarder request circumstances.engine.timeoutMs circumstances.engine.maxRetries
    circumstances.resolvers).1

/-- The engine with other filters. -/
def filtered : Engine := { circumstances.engine with filters }

/-- What becomes of the request at the engine with these filters. -/
def process : Dialogue.Outcome interface (Engine × σ) (Option Message) :=
  (circumstances.filtered filters).process circumstances.timing circumstances.forwarder
    circumstances.resolvers
    request circumstances.client circumstances.transport

/-- The engine with these filters carries the verdict out on the request. -/
def CarryOut (verdict : Verdict) : Prop :=
  let outcome := circumstances.process filters request
  verdict.CarriedOut (circumstances.filtered filters).settings request
    (circumstances.answered request)
    outcome.asked outcome.value

/-- The verdict that the lists give on the name of the first question is carried out. -/
theorem carryOut_of_holds {blocklist : Option Blocklist} {enabled : Bool} {rules : List Rule}
    {question : Question} (first : request.questions.head? = some question) {verdict : Verdict}
    (holds : verdict.Holds blocklist enabled rules (toString question.name)) :
    circumstances.CarryOut (.ofLists blocklist (.load enabled rules)) request verdict := by
  have lists : (circumstances.filtered (.ofLists blocklist (.load enabled rules))).filters =
      .ofLists blocklist (.load enabled rules) := rfl
  exact carriedOut_process _ _ _ lists _ _ first holds

end Circumstances

/-- Requests whose names differ in the case of letters only get the same verdict, by the same rule
and with the same target, whenever and from wherever they come. The replies are the same but for the
case of letters in the names that they repeat, unless they are answers of the resolvers. -/
theorem verdict_ignores_case {σ : Type} (here there : Circumstances σ)
    (blocklist : Option Blocklist) (enabled : Bool) (rules : List Rule) {first second : Message}
    (alike : first.AsksAlike second)
    {asked : Question} (asks : first.questions.head? = some asked) :
    let filters : Filters := .ofLists blocklist (.load enabled rules)
    ∃ other verdict, second.questions.head? = some other ∧
      verdict.Holds blocklist enabled rules (toString asked.name) ∧
      verdict.Holds blocklist enabled rules (toString other.name) ∧
      here.CarryOut filters first verdict ∧ there.CarryOut filters second verdict ∧
      ((verdict = .forwarded →
          (here.answered first).isOk = false ∧ (there.answered second).isOk = false) →
        (there.process filters second).value.map Message.lowercase =
          (here.process filters first).value.map Message.lowercase) := by
  intro filters
  obtain ⟨other, present, same⟩ := alike.exists_head? asks
  obtain ⟨verdict, holds⟩ := Verdict.exists_holds blocklist enabled rules (toString asked.name)
  have also := holds.congr (Filter.normalize_toString_congr same)
  have one : here.CarryOut filters first verdict := here.carryOut_of_holds first asks holds
  have two : there.CarryOut filters second verdict := there.carryOut_of_holds second present also
  refine ⟨other, verdict, present, holds, also, one, two, fun made => ?_⟩
  rw [two.reply, one.reply, Option.map_some, Option.map_some, verdict.lowercase_reply alike made]

/-- The names `x.Ad` and `X.aD` are both redirected by the rule on `*.ad`, to the target that it
has. -/
theorem verdict_ignores_case_redirected :
    let name : Name := ⟨[[120], [65, 100]], by decide, by decide⟩
    let other : Name := ⟨[[88], [97, 68]], by decide, by decide⟩
    let asking (name : Name) : Message :=
      { id := 7, recursionDesired := true, questions := [⟨name, RecordType.a, classInternet⟩] }
    let first := asking name
    let second := asking other
    let rule : Rule :=
      { id := "ads", action := .redirect, domains := ["*.ad"], redirectTarget := some " 10.0.0.9 " }
    let filters : Filters := .ofLists none (.load true [rule])
    let circumstances : Circumstances Unit :=
      { engine := { filters, metrics := .start 300000 30000 0 }, timing := ⟨0, 0⟩
        forwarder := fun _ _ _ state => (.error .noHealthyServers, state), resolvers := ()
        client := .v4 ⟨192, 0, 2, 7⟩ 40000, transport := .udp }
    Message.decode [0, 7, 1, 0, 0, 1, 0, 0, 0, 0, 0, 0, 1, 120, 2, 65, 100, 0, 0, 1, 0, 1] =
      .ok first ∧
      Message.decode [0, 7, 1, 0, 0, 1, 0, 0, 0, 0, 0, 0, 1, 88, 2, 97, 68, 0, 0, 1, 0, 1] =
        .ok second ∧
      first.AsksAlike second ∧
      (circumstances.process filters first).value = some (first.redirect ⟨10, 0, 0, 9⟩) ∧
      (circumstances.process filters second).value = some (second.redirect ⟨10, 0, 0, 9⟩) ∧
      (circumstances.process filters second).value.map Message.lowercase =
        (circumstances.process filters first).value.map Message.lowercase := by
  intro name other asking first second rule filters circumstances
  have alike : first.AsksAlike second :=
    .of_first first ⟨name, RecordType.a, classInternet⟩ [] (by decide)
  obtain ⟨_, verdict, -, holds, -, one, two, same⟩ :=
    verdict_ignores_case circumstances circumstances none true [rule] alike rfl
  have ruled : Policy.RuledBy [rule] (toString name) 0 rule := by
    refine ⟨rfl, ?_, nofun⟩
    rw [Filter.DomainSet.contains_ofList]
    decide +kernel
  have redirects :
      (Verdict.redirected 0 rule ⟨10, 0, 0, 9⟩).Holds none true [rule] (toString name) :=
    ⟨rfl, rfl, ruled, rfl, by decide +kernel⟩
  obtain rfl := holds.unique redirects
  exact ⟨by decide +kernel, by decide +kernel, alike, one.reply, two.reply, same nofun⟩

end Engine

end DnsForwarder
