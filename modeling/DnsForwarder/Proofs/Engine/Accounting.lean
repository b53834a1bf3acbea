import DnsForwarder.Proofs.Engine.Gating
import DnsForwarder.Proofs.Metrics.Recording

/-!
# What queries leave behind

A query that has a question leaves one sample, which is a failure if the policy fails, if there is
no IPv4 address to redirect to or if the resolvers fail. Each of these is noted as the latest error,
and so is the failure of a blocklist, which does not keep the query from succeeding: a query can
leave two errors, and one that is answered can leave one
(`DnsForwarder.Engine.leaves_consultFilters`). In a run of queries the samples add up and the latest
error is that of the last query that left one (`DnsForwarder.Engine.afterCalls_accounts`).
-/

namespace DnsForwarder.Engine

/-- An engine that has noted errors. -/
def noteAll (engine : Engine) (errors : List Error) : Engine :=
  { engine with status := errors.foldl Status.note engine.status }

/-- Errors may be noted in two parts. -/
theorem noteAll_append (engine : Engine) (first second : List Error) :
    engine.noteAll (first ++ second) = (engine.noteAll first).noteAll second := by
  rw [noteAll, List.foldl_append]
  rfl

/-- The latest error is the last of those that were noted, and stays if there were none. -/
theorem noteAll_lastError (engine : Engine) (errors : List Error) :
    (engine.noteAll errors).status.lastError = errors.getLast?.or engine.status.lastError := by
  induction errors using List.reverseRecOn with
  | nil => rfl
  | append_singleton errors error _ =>
    rw [noteAll_append, List.getLast?_concat, Option.some_or]
    rfl

/-- The error for which something failed, if it did. -/
def errorOf? {α : Type} : Except Error α → Option Error
  | .ok _ => none
  | .error error => some error

/-- The error of a blocklist that is asked about a domain and fails. -/
def Filters.blocklistError? (filters : Filters) (domain : String) : Option Error :=
  filters.isBlocked.bind fun check => errorOf? (check domain)

/-- The error of a redirection whose target is no IPv4 address, be it that there is none. -/
def targetError? (decision : Filter.Decision) : Option Error :=
  match Net.IPv4.ofText? (Query.targetText decision).toList with
  | some _ => none
  | none => some (.invalidRedirectTarget (Query.targetText decision))

/-- The error for which a query fails that the blocklist lets pass, by what the policy says and what
the resolvers answer. -/
def failureBy (answered : Except Error Message) : Except Error Filter.Decision → Option Error
  | .error error => some error
  | .ok decision =>
    match decision.action with
    | .deny => none
    | .redirect => targetError? decision
    | .allow => errorOf? answered

/-- The error for which a query fails, if it does. -/
def Filters.failure? (filters : Filters) (answered : Except Error Message) (domain : String) :
    Option Error :=
  if filters.blocks domain then none else failureBy answered (filters.decide domain)

/-- A query notes the error for which it fails and nothing else, and it is a success if it does not
fail. -/
structure Leaves {σ : Type} (engine : Engine) (failure? : Option Error)
    (outcome : Dialogue.Outcome interface (Engine × σ) Ending) : Prop where
  engine : outcome.state.1 = engine.noteAll failure?.toList
  success : outcome.value.success = failure?.isNone

section Query

variable {σ : Type} (timing : Timing) (forwarder : Forwarder σ) (resolvers : σ) (engine : Engine)
  (query : Query)

/-- A step that leaves nothing in the records may be put before another. -/
theorem leaves_ask {request : Request} {next : request.Answer → Dialogue interface Ending}
    {failure? : Option Error} {state : Engine × σ}
    (rest : Leaves engine failure?
      ((next (tell timing forwarder request state).1).run (I := interface)
        (tell timing forwarder) (tell timing forwarder request state).2)) :
    Leaves engine failure?
      ((Dialogue.ask (I := interface) request next).run (I := interface)
        (tell timing forwarder) state) :=
  ⟨rest.1, rest.2⟩

/-- A complaint leaves its error. -/
theorem leaves_complain (event : Event) (error : Error) (reply : Option Message) :
    Leaves engine (some error)
      ((complain event error reply).run (I := interface) (tell timing forwarder)
        (engine, resolvers)) :=
  ⟨rfl, rfl⟩

/-- A refusal is a success and leaves no error. -/
theorem leaves_refuse (reason : String) :
    Leaves engine none
      ((query.refuse reason).run (I := interface) (tell timing forwarder) (engine, resolvers)) :=
  ⟨rfl, rfl⟩

/-- A redirection fails if its target is no IPv4 address. -/
theorem leaves_redirect (decision : Filter.Decision) :
    Leaves engine (targetError? decision)
      ((query.redirect decision).run (I := interface) (tell timing forwarder)
        (engine, resolvers)) := by
  unfold targetError? Query.redirect
  dsimp only
  cases Net.IPv4.ofText? (Query.targetText decision).toList with
  | some target => exact ⟨rfl, rfl⟩
  | none => exact leaves_complain timing forwarder resolvers engine _ _ _

/-- A query that is forwarded fails if the resolvers do. -/
theorem leaves_forward (settings : Settings) :
    Leaves engine
      (errorOf? (forwarder query.request settings.timeoutMs settings.maxRetries resolvers).1)
      ((query.forward settings).run (I := interface) (tell timing forwarder)
        (engine, resolvers)) := by
  refine leaves_ask timing forwarder engine ?_
  rw [tell]
  cases (forwarder query.request settings.timeoutMs settings.maxRetries resolvers).1 with
  | ok response => exact ⟨rfl, rfl⟩
  | error error => exact leaves_complain timing forwarder _ engine _ error _

/-- A query that is put to the policy fails as the policy, the redirection or the resolvers do. -/
theorem leaves_consultPolicy (settings : Settings) :
    Leaves engine
      (failureBy (forwarder query.request settings.timeoutMs settings.maxRetries resolvers).1
        (engine.filters.decide query.domain))
      ((query.consultPolicy settings).run (I := interface) (tell timing forwarder)
        (engine, resolvers)) := by
  refine leaves_ask timing forwarder engine ?_
  rw [tell]
  cases engine.filters.decide query.domain with
  | error error => exact leaves_complain timing forwarder resolvers engine _ error _
  | ok decision =>
    rw [failureBy]
    dsimp only
    cases decision.action with
    | deny => exact leaves_refuse timing forwarder resolvers engine query _
    | redirect => exact leaves_redirect timing forwarder resolvers engine query decision
    | allow => exact leaves_forward timing forwarder resolvers engine query settings

/-- The failure of the blocklist is noted first. It does not keep the query from succeeding. -/
theorem leaves_consultFilters :
    let answered := (forwarder query.request engine.timeoutMs engine.maxRetries resolvers).1
    Leaves (engine.noteAll (engine.filters.blocklistError? query.domain).toList)
      (engine.filters.failure? answered query.domain)
      ((query.consultFilters engine.settings).run (I := interface) (tell timing forwarder)
        (engine, resolvers)) := by
  intro answered
  have policed (noted : Engine) :=
    leaves_consultPolicy timing forwarder resolvers noted query engine.settings
  have present : engine.settings.hasBlocklist = engine.filters.isBlocked.isSome := rfl
  rw [Query.consultFilters, present, Filters.failure?]
  cases listed : engine.filters.isBlocked with
  | none =>
    rw [Filters.blocklistError?, listed, Filters.blocks_of_none listed]
    exact policed engine
  | some check =>
    refine leaves_ask timing forwarder _ ?_
    rw [tell_isBlocked listed, Filters.blocklistError?, listed, Option.bind_some,
      Filters.blocks_of_some listed]
    cases check query.domain with
    | error error =>
      -- The failure is reported and noted, and the policy finds an engine that differs only in its
      -- status.
      exact leaves_ask timing forwarder _ (leaves_ask timing forwarder _ (policed _))
    | ok covered =>
      cases covered with
      | true => exact leaves_refuse timing forwarder resolvers engine query "blocklist"
      | false => exact policed engine

end Query

/-- A request with a question leaves one sample, after the errors it notes. -/
theorem state_of_question {σ : Type} (timing : Timing) (forwarder : Forwarder σ) (resolvers : σ)
    (engine : Engine) {request : Message} (client : Net.SocketAddress) (transport : Transport)
    {question : Question}
    (first : request.questions.head? = some question) :
    let domain := toString question.name
    let answered := (forwarder request engine.timeoutMs engine.maxRetries resolvers).1
    let failure? := engine.filters.failure? answered domain
    (engine.process timing forwarder resolvers request client transport).state.1 =
      { engine.noteAll ((engine.filters.blocklistError? domain).toList ++ failure?.toList) with
        metrics := engine.metrics.record timing.now timing.latency failure?.isNone } := by
  intro domain answered failure?
  let query : Query := { request, domain, client, transport }
  obtain ⟨noted, success⟩ := leaves_consultFilters timing forwarder resolvers engine query
  rw [process_eq_of_question timing forwarder resolvers engine request client transport first,
    noteAll_append]
  dsimp only [tell]
  rw [success, noted]
  rfl

/-- A request without a question leaves the engine as it was. -/
theorem state_of_no_question {σ : Type} (timing : Timing) (forwarder : Forwarder σ) (resolvers : σ)
    (engine : Engine) {request : Message} (client : Net.SocketAddress) (transport : Transport)
    (silent : request.questions.head? = none) :
    (engine.process timing forwarder resolvers request client transport).state.1 = engine := by
  rw [process, answer, silent]
  rfl

/-- A query that is put to an engine, and what it meets there: how the filters answer, what the
resolvers answer if they are asked, and how long it takes. -/
structure Call where
  request : Message
  client : Net.SocketAddress
  transport : Transport
  filters : Filters
  answered : Except Error Message
  latency : Nat

namespace Call

variable (call : Call)

/-- The domain that the query is about, if it has a question. -/
def domain? : Option String :=
  call.request.questions.head?.map fun question => toString question.name

/-- The error for which the query fails, if it has a question and fails. -/
def failure? : Option Error := call.domain?.bind (call.filters.failure? call.answered)

/-- The errors that are noted for the query, in order. -/
def errors : List Error :=
  (call.domain?.bind call.filters.blocklistError?).toList ++ call.failure?.toList

/-- The sample of the query, if it has a question. -/
def sample? (now : Nat) : Option Metrics.Sample :=
  call.domain?.map fun _ =>
    { time := now, latency := call.latency, success := call.failure?.isNone }

/-- How the query ends that is put to an engine and done when the clock reads `now`. -/
def outcome (engine : Engine) (now : Nat) :
    Dialogue.Outcome interface (Engine × Unit) (Option Message) :=
  { engine with filters := call.filters }.process ⟨now, call.latency⟩
    (fun _ _ _ resolvers => (call.answered, resolvers)) () call.request call.client call.transport

end Call

/-- The engine after a query. The filters stay what they are, however they answered. -/
def afterCall (engine : Engine) (now : Nat) (call : Call) : Engine :=
  { (call.outcome engine now).state.1 with filters := engine.filters }

/-- The engine after some queries, all of which are done when the clock reads `now`. -/
def afterCalls (engine : Engine) (now : Nat) (calls : List Call) : Engine :=
  calls.foldl (fun engine call => engine.afterCall now call) engine

/-- A query notes its errors and leaves its sample, and that is all. -/
theorem afterCall_eq (engine : Engine) (now : Nat) (call : Call) :
    engine.afterCall now call =
      { engine.noteAll call.errors with
        metrics := engine.metrics.recordAll (call.sample? now).toList } := by
  unfold afterCall Call.errors Call.sample? Call.failure? Call.domain?
  cases first : call.request.questions.head? with
  | none =>
    have left : (call.outcome engine now).state.1 = _ := state_of_no_question _ _ _ _ _ _ first
    rw [left]
    rfl
  | some question =>
    have left : (call.outcome engine now).state.1 = _ := state_of_question _ _ _ _ _ _ first
    rw [left]
    rfl

/-- In a run, the errors are noted and the samples are left one after the other. -/
theorem afterCalls_eq (engine : Engine) (now : Nat) (calls : List Call) :
    engine.afterCalls now calls =
      { engine.noteAll (calls.flatMap Call.errors) with
        metrics := engine.metrics.recordAll (calls.filterMap (·.sample? now)) } := by
  induction calls generalizing engine with
  | nil => rfl
  | cons call calls ih =>
    have errors : (call :: calls).flatMap Call.errors = call.errors ++ calls.flatMap Call.errors :=
      rfl
    have samples : (call :: calls).filterMap (·.sample? now) =
        (call.sample? now).toList ++ calls.filterMap (·.sample? now) := by
      cases left : call.sample? now <;> simp [left]
    rw [afterCalls, List.foldl_cons, ← afterCalls, ih, afterCall_eq, errors, samples,
      noteAll_append, Metrics.Window.recordAll, Metrics.Window.recordAll, Metrics.Window.recordAll,
      List.foldl_append]
    rfl

/-- There is one sample for each query that has a question. -/
theorem length_samples (calls : List Call) (now : Nat) :
    (calls.filterMap (·.sample? now)).length = calls.countP (!·.request.questions.isEmpty) := by
  rw [List.length_filterMap_eq_countP]
  refine List.countP_congr fun call _ => ?_
  rw [Call.sample?, Option.isSome_map, Call.domain?, Option.isSome_map]
  cases call.request.questions <;> rfl

/-- There is one sample of a failure for each query that fails. -/
theorem countP_samples (calls : List Call) (now : Nat) :
    (calls.filterMap (·.sample? now)).countP (!·.success) = calls.countP (·.failure?.isSome) := by
  rw [List.countP_filterMap]
  refine List.countP_congr fun call _ => ?_
  rw [Call.sample?, Call.failure?]
  cases call.domain? with
  | none => rfl
  | some domain =>
    rw [Option.map_some, Option.map_some, Option.bind_some]
    cases call.filters.failure? call.answered domain <;> rfl

/-- While the clock stands still, the summary has the samples of the queries more. -/
theorem summary_afterCalls {engine : Engine} (spaced : engine.metrics.Spaced) (now : Nat)
    (calls : List Call) :
    (engine.afterCalls now calls).metrics.summary now =
      engine.metrics.summary now + Metrics.tally (calls.filterMap (·.sample? now)) := by
  rw [afterCalls_eq]
  apply spaced.summary_recordAll_now
  intro sample member
  obtain ⟨call, -, left⟩ := List.mem_filterMap.mp member
  obtain ⟨-, -, rfl⟩ := Option.map_eq_some_iff.mp left
  rfl

/-- The latest error after a run is the last that was noted in it, or what it was before. -/
theorem lastError_afterCalls (engine : Engine) (now : Nat) (calls : List Call) :
    (engine.afterCalls now calls).report.lastError =
      ((calls.flatMap Call.errors).getLast?.map Error.message).or engine.report.lastError := by
  rw [afterCalls_eq, report, report, ← Option.map_or]
  exact congrArg (Option.map Error.message) (noteAll_lastError engine _)

/-- Whatever queries are put to an engine one after the other, and whatever they meet there, while
the clock stands still the summary grows by one sample for each query with a question and by one
error for each that fails; words that count them wrap, but not as long as there are fewer samples
than a word can count. The latest error is the last that a query of the run noted, if one did, and
else what it was, and queries that note none leave it. -/
theorem afterCalls_accounts (windowMs sliceMs first : Nat) (earlier : List Metrics.Sample)
    (engine : Engine)
    (recorded : engine.metrics = (Metrics.Window.start windowMs sliceMs first).recordAll earlier)
    (now : Nat) (calls : List Call) :
    let after := engine.afterCalls now calls
    let before := engine.metrics.summary now
    let counts := after.metrics.summary now
    let asked := calls.countP (!·.request.questions.isEmpty)
    let failed := calls.countP (·.failure?.isSome)
    counts.total = before.total + UInt64.ofNat asked ∧
      counts.errors = before.errors + UInt64.ofNat failed ∧
      (earlier.length + asked < 2 ^ 64 →
        counts.total.toNat = before.total.toNat + asked ∧
          counts.errors.toNat = before.errors.toNat + failed) ∧
      after.report.lastError =
        ((calls.flatMap Call.errors).getLast?.map Error.message).or engine.report.lastError ∧
      ∀ later, (∀ call ∈ later, call.errors = []) →
        (after.afterCalls now later).report.lastError = after.report.lastError := by
  intro after before counts asked failed
  have spaced : engine.metrics.Spaced := by
    rw [recorded]
    exact (Metrics.Window.spaced_start windowMs sliceMs first).recordAll earlier
  have grown : counts = before + Metrics.tally (calls.filterMap (·.sample? now)) :=
    summary_afterCalls spaced now calls
  refine ⟨?_, ?_, fun few => ?_, lastError_afterCalls engine now calls, fun later quiet => ?_⟩
  · rw [grown, Metrics.Counts.add_total, Metrics.tally_total, length_samples]
  · rw [grown, Metrics.Counts.add_errors, Metrics.tally_errors, countP_samples]
  · have length : (calls.filterMap (·.sample? now)).length = asked := length_samples calls now
    rw [← length] at few
    obtain ⟨counted, before_tallies, after_tallies⟩ :=
      Metrics.Window.exists_tallies_add windowMs sliceMs first earlier _ now few
    rw [← recorded] at before_tallies after_tallies
    rw [← grown] at after_tallies
    constructor
    · rw [after_tallies.total, before_tallies.total, List.length_append, length]
    · rw [after_tallies.errors, before_tallies.errors, List.countP_append, countP_samples]
  · rw [lastError_afterCalls, List.flatMap_eq_nil_iff.mpr quiet]
    rfl

/-- A blocklist that fails before an answer is relayed, one that fails before the resolvers do, a
policy that fails, a redirection to nowhere and a message without a question. A refusal leaves the
latest error. -/
theorem afterCalls_accounts_mixed :
    let call (filters : Filters) (answered : Except Error Message) : Call :=
      { request := { id := 7, questions := [⟨.root, RecordType.a, classInternet⟩] }
        client := .v4 .loopback 40000
        transport := .udp
        filters
        answered
        latency := 30 }
    let broken : Option (String → Except Error Bool) :=
      some fun _ => .error (.blocklistCheckFailed "gone")
    let relayed := call ⟨broken, fun _ => .ok .allow, true⟩ (.ok { id := 7 })
    let failed := call ⟨broken, fun _ => .ok .allow, true⟩ (.error .noHealthyServers)
    let dropped :=
      call ⟨none, fun _ => .error (.policyEvaluationFailed "off"), true⟩ (.error .noHealthyServers)
    let nowhere :=
      call ⟨none, fun _ => .ok { action := .redirect }, true⟩ (.error .noHealthyServers)
    let silent : Call := { relayed with request := { id := 8 } }
    let refused :=
      call ⟨some fun _ => .ok true, fun _ => .ok .allow, true⟩ (.error .noHealthyServers)
    let engine : Engine :=
      { filters := refused.filters
        metrics := (Metrics.Window.start 1000 100 40).recordAll [⟨60, 5, false⟩] }
    let after := engine.afterCalls 70 [relayed, failed, dropped, nowhere, silent]
    (after.metrics.summary 70).total.toNat = 1 + 4 ∧
      (after.metrics.summary 70).errors.toNat = 1 + 3 ∧
      after.report.lastError = some "Invalid redirect target: " ∧
      (after.afterCalls 70 [refused]).report.lastError = after.report.lastError := by
  intro call broken relayed failed dropped nowhere silent refused engine after
  obtain ⟨-, -, counts, error, kept⟩ :=
    afterCalls_accounts 1000 100 40 [⟨60, 5, false⟩] engine rfl 70
    [relayed, failed, dropped, nowhere, silent]
  obtain ⟨total, errors⟩ := counts (by decide +kernel)
  refine ⟨total.trans ?_, errors.trans ?_, error.trans ?_, kept [refused] ?_⟩
  · decide +kernel
  · decide +kernel
  · decide +kernel
  · decide +kernel

end DnsForwarder.Engine
