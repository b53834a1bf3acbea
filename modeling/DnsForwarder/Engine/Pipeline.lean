import DnsForwarder.Dialogue
import DnsForwarder.Error
import DnsForwarder.Event
import DnsForwarder.Filter.Policy
import DnsForwarder.Message.Name.Printer
import DnsForwarder.Message.Reply
import DnsForwarder.Net.Address.Printer
import DnsForwarder.Net.Address.Reader
import DnsForwarder.Text.Blank

/-!
# Answering a query

A query is put to the blocklist, if there is one, and then to the policy; what the policy allows is
forwarded. Each of these steps may end the matter. A blocklist that cannot be asked blocks nothing,
a policy that cannot be asked leaves the query without a reply, and a query that cannot be
redirected or forwarded is answered with a report of failure.

Answering is a dialogue with the filters, the resolvers and the engine's own records. A query that
has a question leaves exactly one sample in the metrics.
-/

namespace DnsForwarder.Engine

/-- What answering a query asks for. -/
inductive Request where
  /-- Whether the blocklist covers a domain. -/
  | isBlocked (domain : String)
  /-- What the policy decides about a domain. -/
  | decide (domain : String)
  /-- The resolvers' answer to a query. -/
  | forward (query : Message) (timeoutMs maxRetries : Nat)
  /-- Notes an error as the latest one. -/
  | note (error : Error)
  /-- Adds a sample to the metrics. -/
  | sample (success : Bool)
  | report (event : Event)
deriving DecidableEq

namespace Request

/-- What is told for a request. -/
abbrev Answer : Request → Type
  | .isBlocked _ => Except Error Bool
  | .decide _ => Except Error Filter.Decision
  | .forward .. => Except Error Message
  | .note _ => Unit
  | .sample _ => Unit
  | .report _ => Unit

end Request

/-- The surroundings of a query. -/
abbrev interface : Interface := ⟨Request, Request.Answer⟩

/-- What an engine is set up with. -/
structure Settings where
  hasBlocklist : Bool := false
  timeoutMs : Nat := 5000
  maxRetries : Nat := 2
deriving DecidableEq, Repr

/-- A query that is being answered. -/
structure Query where
  request : Message
  /-- The name of the first question. -/
  domain : String
  client : Net.SocketAddress
  transport : Transport

/-- How a query ends: the reply, if there is one, and whether the query counts as a success. -/
structure Ending where
  reply : Option Message
  success : Bool
deriving DecidableEq

/-- Says that something went wrong and notes it. -/
def complain (event : Event) (error : Error) (reply : Option Message) : Dialogue interface Ending :=
  .ask (.report event) fun _ => .ask (.note error) fun _ => .done ⟨reply, false⟩

namespace Query

/-- The domain, as a field of an event. -/
def domainField (query : Query) : String × FieldValue := ("domain", query.domain)

/-- The client, as a field of an event. -/
def clientField (query : Query) : String × FieldValue := ("client", toString query.client)

/-- Refuses a query. -/
def refuse (query : Query) (reason : String) : Dialogue interface Ending :=
  .ask (.report (.info "Query refused"
    [query.domainField, query.clientField, ("reason", reason)])) fun _ =>
    .done ⟨some query.request.refused, true⟩

/-- The text of a redirection's target, without blanks around it. -/
def targetText (decision : Filter.Decision) : String :=
  Text.trimBlank (decision.redirectTarget.getD "")

/-- Answers with the target of a redirection, if that is an IPv4 address. -/
def redirect (query : Query) (decision : Filter.Decision) : Dialogue interface Ending :=
  let text := targetText decision
  match Net.IPv4.ofText? text.toList with
  | some target =>
    .ask (.report (.info "Query redirected"
      [query.domainField, query.clientField, ("reason", decision.reason),
        ("target", toString target)])) fun _ =>
      .done ⟨some (query.request.redirect target), true⟩
  | none =>
    let error := Error.invalidRedirectTarget text
    complain
      (.error "Redirect failed"
        [query.domainField, ("reason", decision.reason), ("error", error.message)])
      error (some query.request.serverFailure)

/-- Answers with what the resolvers answer. -/
def forward (query : Query) (settings : Settings) : Dialogue interface Ending :=
  .ask (.forward query.request settings.timeoutMs settings.maxRetries) fun
    | .ok response =>
      .ask (.report (.debug "Upstream answered"
        [query.domainField, ("transport", query.transport.name),
          ("answers", response.answers.length)])) fun _ =>
        .done ⟨some response, true⟩
    | .error error =>
      complain
        (.error "Upstream exchange failed"
          [query.domainField, query.clientField, ("error", error.message)])
        error (some query.request.serverFailure)

/-- Does what the policy decides. -/
def consultPolicy (query : Query) (settings : Settings) : Dialogue interface Ending :=
  .ask (.decide query.domain) fun
    | .error error =>
      complain
        (.error "Policy evaluation failed, dropping query"
          [query.domainField, query.clientField, ("error", error.message)])
        error none
    | .ok decision =>
      match decision.action with
      | .deny => query.refuse decision.reason
      | .redirect => query.redirect decision
      | .allow => query.forward settings

/-- Asks the blocklist, if there is one, before the policy. -/
def consultFilters (query : Query) (settings : Settings) : Dialogue interface Ending :=
  if settings.hasBlocklist then
    .ask (.isBlocked query.domain) fun
      | .ok true => query.refuse "blocklist"
      | .ok false => query.consultPolicy settings
      | .error error =>
        .ask (.report (.warn "Blocklist check failed, continuing to policy"
          [query.domainField, ("error", error.message)])) fun _ =>
          .ask (.note error) fun _ => query.consultPolicy settings
  else
    query.consultPolicy settings

end Query

/-- Answers a request. Without a question there is no reply. -/
def answer (settings : Settings) (request : Message) (client : Net.SocketAddress)
    (transport : Transport) : Dialogue interface (Option Message) :=
  match request.questions.head? with
  | none =>
    .ask (.report (.warn "Dropping query without a question"
      [("client", toString client), ("transport", transport.name)])) fun _ => .done none
  | some question =>
    let query : Query := { request, domain := toString question.name, client, transport }
    (query.consultFilters settings).bind fun ending =>
      .ask (.sample ending.success) fun _ => .done ending.reply

end DnsForwarder.Engine
