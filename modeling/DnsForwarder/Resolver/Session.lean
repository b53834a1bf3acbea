import DnsForwarder.Resolver.Group

/-!
# Groups at work

A session joins a group of resolvers with the servers behind them. Queries are put to it by
failover, and a round of probes brings resolvers back. Both leave their traces in the histories and
pools of the group and in the log.

The servers are a function from a state of theirs to the course of an exchange, so that any
behaviour is one of them.
-/

namespace DnsForwarder.Resolver

/-- How an exchange with a server goes. -/
structure Course (C : Type) where
  /-- What happens before the deadline. -/
  events : List (ExchangeEvent C)
  /-- Milliseconds from the start to the end. -/
  latency : Nat := 0
  /-- The wall clock at the end, in milliseconds. -/
  finished : Int := 0

/-- What servers do about an exchange with the resolver at a place. -/
abbrev Servers (C σ : Type) :=
  (index : Nat) → (query : Message) → (timeoutMs : Nat) → σ → Course C × σ

/-- A group with the state of its servers and what was reported so far. -/
structure Session (C σ : Type) where
  group : Group C
  servers : σ
  log : List Event := []

namespace Group

variable {C : Type}

/-- One exchange with the resolver at a place, which goes into its history. -/
def attempt (group : Group C) (index : Nat) (query : Message) (course : Course C) :
    Except Error Message × Group C × List Event :=
  match group.members[index]? with
  | none => (.error .noHealthyServers, group, [])
  | some member =>
    let (result, pool) := member.pool.complete query course.events
    let asked := group.modify index fun member => { member with pool }
    (result, asked.settle index result course.latency course.finished)

end Group

namespace Session

variable {C σ : Type}

/-- Tells failover and probes what they ask for. -/
def tell (servers : Servers C σ) (request : Request) (session : Session C σ) :
    request.Answer × Session C σ :=
  match request with
  | .health index => (session.group.health index, session)
  | .attempt index query timeoutMs =>
    let (course, state) := servers index query timeoutMs session.servers
    let (result, group, events) := session.group.attempt index query course
    (result, { group, servers := state, log := session.log ++ events })
  | .exhausted index =>
    let (group, events) := session.group.exhaust index
    ((), { session with group, log := session.log ++ events })
  | .report event => ((), { session with log := session.log ++ [event] })

/-- Puts a query to the resolvers. -/
def exchange (servers : Servers C σ) (query : Message) (timeoutMs maxRetries : Nat)
    (session : Session C σ) :
    Dialogue.Outcome interface (Session C σ) (Except Error Message) :=
  (Failover.exchange session.group.places query timeoutMs maxRetries).run (I := interface)
    (tell servers) session

/-- A round of probes; gives the number of resolvers that came back. -/
def recover (servers : Servers C σ) (probes : Recovery.Probes) (timeoutMs : Nat)
    (session : Session C σ) : Dialogue.Outcome interface (Session C σ) Nat :=
  (Recovery.round session.group.places probes timeoutMs).run (I := interface) (tell servers) session

/-- Closes the pools. -/
def close (session : Session C σ) : Session C σ := { session with group := session.group.close }

end Session

end DnsForwarder.Resolver
