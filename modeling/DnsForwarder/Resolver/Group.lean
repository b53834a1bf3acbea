import DnsForwarder.Resolver.Failover

/-!
# Groups of resolvers

The resolvers of a forwarder in the order in which they are asked, each with its history and its
pool.
-/

namespace DnsForwarder.Resolver

/-- A resolver that is in use. -/
structure Member (C : Type) where
  description : Description
  history : History := {}
  pool : Pool C

/-- Resolvers in the order in which they are asked. -/
structure Group (C : Type) where
  members : List (Member C)
  /-- After how many exhausted rounds in a row a resolver is down; with zero it never is. -/
  downAfter : UInt32

namespace Member

variable {C : Type}

/-- Sets up a resolver. -/
@[irreducible]
def connect (C : Type) (host : Net.Host) (description : Description) (poolSize : Nat) :
    Except Error (Member C) := do
  let address ← description.socketAddress
  let pool ← Pool.connect C host address poolSize
  pure { description, pool }

/-- What is reported about a resolver that was set up. -/
def readyEvent (member : Member C) : Event :=
  .info "Upstream resolver ready"
    [("resolver", member.description.id), ("server", toString member.pool.server),
      ("priority", .number member.description.priority)]

/-- The resolver as a status report shows it. -/
def snapshot (member : Member C) (now : Int) : Snapshot :=
  member.history.snapshot member.description.id member.description.displayName now

end Member

namespace Group

variable {C : Type}

/-- Descriptions by rising priority; where that is the same they keep their order. -/
def byPriority (descriptions : List Description) : List Description :=
  descriptions.mergeSort fun x y => x.priority ≤ y.priority

/-- Sets up resolvers one after the other, up to the first that fails. -/
def connectEach (C : Type) (host : Net.Host) (poolSize : Nat) :
    List Description → Except Error (List (Member C)) × List Event
  | [] => (.ok [], [])
  | description :: rest =>
    match Member.connect C host description poolSize with
    | .error error => (.error error, [])
    | .ok member =>
      let (members, events) := connectEach C host poolSize rest
      (members.map (member :: ·), member.readyEvent :: events)

/-- Sets up a group by rising priority. The events tell of the resolvers that were set up. -/
def connect (C : Type) (host : Net.Host) (descriptions : List Description) (poolSize : Nat)
    (downAfter : UInt32) : Except Error (Group C) × List Event :=
  let (members, events) := connectEach C host poolSize (byPriority descriptions)
  (members.map ({ members := ·, downAfter }), events)

/-- The places of the resolvers, for failover. -/
def places (group : Group C) : List Failover.Place :=
  group.members.mapIdx fun index member => (index, member.description.id)

/-- Changes the resolver at a place. -/
def modify (group : Group C) (index : Nat) (f : Member C → Member C) : Group C :=
  { group with members := group.members.modify index f }

/-- The health of the resolver at a place. -/
def health (group : Group C) (index : Nat) : Health :=
  (group.members[index]?.map (·.history.health)).getD .healthy

/-- Puts the outcome of an exchange into the history of a resolver. -/
def settle (group : Group C) (index : Nat) (outcome : Except Error Message) (latency : Nat)
    (now : Int) : Group C × List Event :=
  match group.members[index]? with
  | none => (group, [])
  | some member =>
    match outcome with
    | .ok _ =>
      (group.modify index fun m => { m with history := m.history.succeed latency now },
        member.history.successEvents member.description.id)
    | .error error =>
      (group.modify index fun m => { m with history := m.history.fail error }, [])

/-- Notes an exhausted round in the history of a resolver. -/
def exhaust (group : Group C) (index : Nat) : Group C × List Event :=
  match group.members[index]? with
  | none => (group, [])
  | some member =>
    let after := member.history.exhaust group.downAfter
    (group.modify index fun m => { m with history := after },
      member.history.exhaustionEvents member.description.id after)

/-- Closes the pools. -/
def close (group : Group C) : Group C :=
  { group with members := group.members.map fun member =>
    { member with pool := member.pool.close } }

/-- The resolvers as a status report shows them. -/
def snapshots (group : Group C) (now : Int) : List Snapshot :=
  group.members.map (·.snapshot now)

end Group

end DnsForwarder.Resolver
