import DnsForwarder.Dialogue
import DnsForwarder.Resolver.Description
import DnsForwarder.Resolver.History
import DnsForwarder.Resolver.Pool

/-!
# Failover and recovery

A query goes to the resolvers in the order of their priority. Those that are down are passed over;
each other one is asked until it answers or its attempts are used up, and the first answer is the
answer. A probe asks the resolvers that are not healthy, once each, which is how one that is down
comes back.

Both are dialogues with the resolvers, which are known by their place in the order.
-/

namespace DnsForwarder.Resolver

/-- What failover asks of the resolvers. -/
inductive Request where
  /-- The present health of a resolver. -/
  | health (index : Nat)
  /-- One exchange with a resolver, whose outcome goes into its history. -/
  | attempt (index : Nat) (query : Message) (timeoutMs : Nat)
  /-- Notes that all the attempts of a round failed. -/
  | exhausted (index : Nat)
  | report (event : Event)
deriving DecidableEq

namespace Request

/-- What is told for a request. -/
abbrev Answer : Request → Type
  | .health _ => Health
  | .attempt .. => Except Error Message
  | .exhausted _ => Unit
  | .report _ => Unit

end Request

/-- The resolvers, as failover sees them. -/
abbrev interface : Interface := ⟨Request, Request.Answer⟩

namespace Failover

/-- A resolver's place in the order, and its identifier. -/
abbrev Place := Nat × String

/-- What is reported about a failed attempt. -/
def failedAttempt (id : String) (attempt attempts : Nat) (error : Error) : Event :=
  .warn "Upstream attempt failed"
    [("resolver", id), ("attempt", attempt), ("attempts", attempts), ("error", error.message)]

/-- Asks one resolver up to `left` more times. `last` is the latest error so far. -/
def ask (place : Place) (attempts : Nat) (query : Message) (timeoutMs : Nat) :
    (left : Nat) → (last : Option Error) → Dialogue interface (Except (Option Error) Message)
  | 0, last => .done (.error last)
  | left + 1, _ =>
    .ask (.attempt place.1 query timeoutMs) fun
      | .ok answer => .done (.ok answer)
      | .error error =>
        .ask (.report (failedAttempt place.2 (attempts - left) attempts error)) fun _ =>
          ask place attempts query timeoutMs left (some error)

/-- Asks resolvers one after the other. -/
def askEach (attempts : Nat) (query : Message) (timeoutMs : Nat) :
    List Place → (last : Option Error) → Dialogue interface (Except Error Message)
  | [], last => .done (.error (last.getD .noHealthyServers))
  | place :: rest, last =>
    .ask (.health place.1) fun health : Health =>
      if health = .down then askEach attempts query timeoutMs rest last
      else
        (ask place attempts query timeoutMs attempts last).bind fun
          | .ok answer => .done (.ok answer)
          | .error last =>
            .ask (.exhausted place.1) fun _ => askEach attempts query timeoutMs rest last

/-- Puts a query to the resolvers. At least one attempt is made on each that is not down. -/
def exchange (places : List Place) (query : Message) (timeoutMs maxRetries : Nat) :
    Dialogue interface (Except Error Message) :=
  askEach (max maxRetries 1) query timeoutMs places none

end Failover

namespace Recovery

/-- The query that probes send: the name servers of the root. -/
def probeQuery (id : UInt16) : Message where
  id
  recursionDesired := true
  questions := [⟨.root, RecordType.ns, classInternet⟩]

/-- The queries of a round of probes, by the place of the resolver that they are for. -/
structure Probes where
  query : Nat → Message

/-- One query for all the resolvers. -/
instance : Coe Message Probes := ⟨fun query => ⟨fun _ => query⟩⟩

/-- Asks each resolver that is not healthy, and counts those that answer. -/
def probe (probes : Probes) (timeoutMs : Nat) :
    List Failover.Place → (recovered : Nat) → Dialogue interface Nat
  | [], recovered => .done recovered
  | place :: rest, recovered =>
    .ask (.health place.1) fun health : Health =>
      if health = .healthy then probe probes timeoutMs rest recovered
      else
        .ask (.attempt place.1 (probes.query place.1) timeoutMs) fun
          | .ok _ =>
            .ask (.report (.info "Recovery probe succeeded" [("resolver", place.2)])) fun _ =>
              probe probes timeoutMs rest (recovered + 1)
          | .error _ => probe probes timeoutMs rest recovered

/-- A round of probes, with a report if any resolver came back. -/
def round (places : List Failover.Place) (probes : Probes) (timeoutMs : Nat) :
    Dialogue interface Nat :=
  (probe probes timeoutMs places 0).bind fun recovered =>
    if 0 < recovered then
      .ask (.report (.info "Resolver recovery cycle completed" [("recovered", recovered)])) fun _ =>
        .done recovered
    else
      .done recovered

end Recovery

end DnsForwarder.Resolver
