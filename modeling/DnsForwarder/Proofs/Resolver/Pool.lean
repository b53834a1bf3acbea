import DnsForwarder.Resolver.Pool

/-!
# The errors of a pool

An exchange fails because of the pool, the network or the answer. That no server is healthy is not
among the errors that it ends with (`DnsForwarder.Resolver.Pool.complete_ne_noHealthyServers`): this
is for failover to find out.
-/

namespace DnsForwarder

/-- A fault of a connection is not the want of healthy servers. -/
theorem Net.Fault.error_ne_noHealthyServers (server : Net.SocketAddress) (fault : Net.Fault) :
    fault.error server ≠ .noHealthyServers := by
  rw [Net.Fault.error]
  cases fault.kind with
  | refused => exact Error.noConfusion
  | timedOut => exact Error.noConfusion
  | other => exact Error.noConfusion

namespace Resolver

variable {C : Type}

namespace StreamStage

/-- The stage is not an end for want of healthy servers. -/
def Plain : StreamStage C → Prop
  | .finished result => result ≠ .error .noHealthyServers
  | _ => True

/-- To fail on a connection is no want of healthy servers. -/
theorem plain_failed (server : Net.SocketAddress) (fault : Net.Fault) :
    (finished (.error (fault.error server)) : StreamStage C).Plain := by
  intro same
  exact fault.error_ne_noHealthyServers server (Except.error.inj same)

/-- An exchange on a connection does not begin with a want of healthy servers. -/
theorem plain_start (server : Net.SocketAddress) (table : Slots C) :
    (start server table).1.Plain := by
  unfold start
  split
  next reason _ _ => cases reason <;> exact nofun
  · split <;> trivial

/-- A step of an exchange on a connection comes to no want of healthy servers. -/
theorem Plain.step {stage : StreamStage C} (plain : stage.Plain) (server : Net.SocketAddress)
    (table : Slots C) (event : StreamEvent C) : (stage.step server table event).1.Plain := by
  cases event with
  | answered result =>
    cases stage with
    | pooled reservation connection =>
      cases result with
      | ok bytes => exact nofun
      | error fault => trivial
    | dialing reservation => exact plain
    | fresh reservation connection =>
      cases result with
      | ok bytes => exact nofun
      | error fault => exact plain_failed server fault
    | finished result => exact plain
  | connected result =>
    cases stage with
    | pooled reservation connection => exact plain
    | dialing reservation =>
      cases result with
      | ok connection => trivial
      | error fault => exact plain_failed server fault
    | fresh reservation connection => exact plain
    | finished result => exact plain

end StreamStage

/-- The stage is not an end for want of healthy servers. -/
def Stage.Plain : Stage C → Prop
  | .streaming stage => stage.Plain
  | .finished result => result ≠ .error .noHealthyServers
  | _ => True

namespace Pool

/-- An exchange ends on a connection with no want of healthy servers. -/
theorem plain_conclude {stage : StreamStage C} (plain : stage.Plain) (server : Net.SocketAddress)
    (id : UInt16) : (conclude server id stage).Plain := by
  cases stage with
  | pooled reservation connection => trivial
  | dialing reservation => trivial
  | fresh reservation connection => trivial
  | finished result =>
    cases result with
    | ok bytes =>
      change frameAnswer server id bytes ≠ .error .noHealthyServers
      unfold frameAnswer
      split
      · exact nofun
      · split <;> exact nofun
    | error found =>
      intro same
      exact plain (congrArg Except.error (Except.error.inj same))

/-- An exchange does not begin with a want of healthy servers. -/
theorem plain_start (pool : Pool C) (query : Message) : (pool.start query).Plain := by
  rcases pool.start_cases query with ⟨-, refused⟩ | ⟨-, -, failed⟩ | ⟨-, -, queued⟩
  · rw [refused]
    exact nofun
  · rw [failed]
    exact nofun
  · rw [queued]
    trivial

/-- Falling back comes to no want of healthy servers. -/
theorem plain_fallBack (pool : Pool C) (id : UInt16) : (pool.fallBack id).1.Plain :=
  plain_conclude (StreamStage.plain_start pool.server pool.table) pool.server id

/-- A step of an exchange comes to no want of healthy servers. -/
theorem plain_step {stage : Stage C} (plain : stage.Plain) (pool : Pool C) (id : UInt16)
    (event : ExchangeEvent C) : (pool.step id stage event).1.Plain := by
  unfold step
  split
  · split
    · trivial
    · exact nofun
  · dsimp only
    split
    · split
      · exact nofun
      · exact plain_fallBack pool id
    · trivial
  · exact plain_fallBack pool id
  next stage event => exact plain_conclude (plain.step pool.server pool.table event) pool.server id
  · exact plain

/-- By induction over the events, an exchange comes to no want of healthy servers. -/
theorem plain_advance (id : UInt16) (events : List (ExchangeEvent C)) {stage : Stage C}
    (plain : stage.Plain) (pool : Pool C) : (advance id events (stage, pool)).1.Plain := by
  induction events generalizing stage pool with
  | nil => exact plain
  | cons event rest ih => exact ih (plain_step plain pool id event) (pool.step id stage event).2

/-- A whole exchange does not end for want of healthy servers. -/
theorem complete_ne_noHealthyServers (pool : Pool C) (query : Message)
    (events : List (ExchangeEvent C)) :
    (pool.complete query events).1 ≠ .error .noHealthyServers := by
  have ended : (pool.exchange query (events ++ lateEvents)).1.Plain :=
    plain_advance query.id _ (plain_start pool query) pool
  rw [exchange_append_lateEvents] at ended
  exact ended

end Pool

end Resolver

end DnsForwarder
