import DnsForwarder.Proofs.Resolver.Address
import DnsForwarder.Proofs.Resolver.Group

/-!
# Setting up a group

The resolvers of a group are set up one after the other by rising priority, up to the first that
cannot be: one whose address cannot be read, or any if there is to be no connection. If every
address can be connected to, nothing else goes wrong, and a group is as fresh as its members
(`DnsForwarder.Resolver.Group.connect_by_priority`).
-/

namespace DnsForwarder

namespace Resolver

variable {C : Type} {host : Net.Host} {poolSize : Nat}

/-- Why a resolver cannot be set up. An address that cannot be read is told before anything else. -/
inductive Description.Offends (poolSize : Nat) (description : Description) : Error → Prop where
  | unreadable (unspelled : Net.SocketAddress.ofString? description.endpoint = none) :
    Offends poolSize description (.invalidResolverAddress
      ("resolver '" ++ description.id ++ "' has unparsable address '" ++
        description.address ++ "'"))
  | noSlots {address : Net.SocketAddress}
    (spelled : Net.SocketAddress.ofString? description.endpoint = some address)
    (none : poolSize = 0) :
    Offends poolSize description
      (.configuration ("TCP pool for " ++ toString address ++ " needs at least one slot"))

namespace Member

/-- A resolver that was just set up: healthy, with nothing counted, and with an open pool without
connections. -/
structure Fresh (poolSize : Nat) (description : Description) (member : Member C) : Prop where
  slots : 1 ≤ poolSize
  spelled : Net.SocketAddress.ofString? description.endpoint = some member.pool.server
  description_eq : member.description = description
  history : member.history =
    { health := .healthy, averageLatency := 0, lastSuccess := 0, lastError := none, successes := 0,
      failures := 0, exhaustedRounds := 0 }
  table : member.pool.table = .empty C poolSize
  channelOpen : member.pool.channelOpen = true
  closed : member.pool.closed = false

/-- A description with a fresh member does not offend. -/
theorem Fresh.not_offends {description : Description} {member : Member C}
    (fresh : Fresh poolSize description member) (error : Error) :
    ¬ description.Offends poolSize error := by
  rintro (unspelled | ⟨-, rfl⟩)
  · exact nomatch unspelled.symm.trans fresh.spelled
  · exact nomatch fresh.slots

/-- Of fresh members each description has one. -/
theorem exists_fresh_of_mem {descriptions : List Description} {members : List (Member C)}
    (fresh : List.Forall₂ (Fresh poolSize) descriptions members) {description : Description}
    (among : description ∈ descriptions) : ∃ member :
      Member C, Fresh poolSize description member := by
  induction fresh with
  | nil => exact nomatch among
  | cons first _ ih =>
    obtain rfl | among := List.mem_cons.mp among
    · exact ⟨_, first⟩
    · exact ih among

/-- A description that offends is not connected, and the error tells why. -/
theorem connect_of_offends {description : Description} {error : Error}
    (offends : description.Offends poolSize error) :
    connect C host description poolSize = .error error := by
  unfold connect
  cases offends with
  | unreadable unspelled =>
    rw [Description.socketAddress_eq_error_iff.mpr ⟨unspelled, rfl⟩]
    rfl
  | noSlots spelled none =>
    subst none
    rw [Description.socketAddress_eq_ok_iff.mpr spelled]
    rfl

/-- A resolver is set up, or there is a reason why it cannot be. -/
theorem connect_fresh_or_offends (reachable : ∀ address, host.connectFault address = none)
    (description : Description) (poolSize : Nat) :
    (∃ member : Member C, connect C host description poolSize = .ok member ∧
      Fresh poolSize description member) ∨
      ∃ error, description.Offends poolSize error := by
  cases spelled : Net.SocketAddress.ofString? description.endpoint with
  | none => exact .inr ⟨_, .unreadable spelled⟩
  | some address =>
    obtain rfl | slots := Nat.eq_zero_or_pos poolSize
    · exact .inr ⟨_, .noSlots spelled rfl⟩
    · refine .inl ⟨{ description, pool := { server := address, table := .empty C poolSize } }, ?_,
        ⟨slots, spelled, rfl, rfl, rfl, rfl, rfl⟩⟩
      exact connect_of_reachable (reachable address)
        (Description.socketAddress_eq_ok_iff.mpr spelled)
        (Nat.ne_of_gt slots)

end Member

namespace Group

/-- What setting up resolvers in an order comes to, with the events that tell of those that were set
up. -/
inductive SetsUp (poolSize : Nat) (ordered : List Description) :
    Except Error (List (Member C)) × List Event → Prop where
  | all {members : List (Member C)} (fresh : List.Forall₂ (Member.Fresh poolSize) ordered members) :
    SetsUp poolSize ordered (.ok members, members.map Member.readyEvent)
  | upTo {before after : List Description} {offender : Description} {members : List (Member C)}
    {error : Error}
    (split : ordered = before ++ offender :: after)
    (fresh : List.Forall₂ (Member.Fresh poolSize) before members)
    (offends : offender.Offends poolSize error) :
    SetsUp poolSize ordered (.error error, members.map Member.readyEvent)

/-- By induction over the descriptions, connecting them sets up all, or those before the first that
offends. -/
theorem setsUp_connectEach (reachable : ∀ address, host.connectFault address = none)
    (poolSize : Nat)
    (ordered : List Description) :
    SetsUp poolSize ordered (connectEach C host poolSize ordered) := by
  induction ordered with
  | nil => exact .all .nil
  | cons description rest ih =>
    rw [connectEach]
    obtain ⟨member, connected, fresh⟩ | ⟨error, offends⟩ :=
      Member.connect_fresh_or_offends (C := C) reachable description poolSize
    · rw [connected]
      generalize connectEach C host poolSize rest = outcome at ih ⊢
      cases ih with
      | all others => exact .all (.cons fresh others)
      | upTo split others offends =>
        exact .upTo (congrArg (description :: ·) split) (.cons fresh others) offends
    · rw [Member.connect_of_offends offends]
      exact .upTo (List.nil_append _).symm .nil offends

/-- All the resolvers can be set up if their addresses can be read and there is to be a connection,
unless there is no resolver. -/
theorem SetsUp.ok_iff {ordered : List Description} {result : Except Error (List (Member C))}
    {events : List Event} (outcome : SetsUp poolSize ordered (result, events)) :
    (∃ members, result = .ok members) ↔
      (∀ description ∈ ordered, (Net.SocketAddress.ofString? description.endpoint).isSome) ∧
        (1 ≤ poolSize ∨ ordered = []) := by
  cases outcome with
  | @all members fresh =>
    refine iff_of_true ⟨members, rfl⟩ ⟨fun description member => ?_, ?_⟩
    · obtain ⟨_, made⟩ := Member.exists_fresh_of_mem fresh member
      rw [made.spelled]
      rfl
    · cases fresh with
      | nil => exact .inr rfl
      | cons first => exact .inl first.slots
  | @upTo before after offender members error split fresh offends =>
    have present : offender ∈ ordered := split ▸ List.mem_append_right before List.mem_cons_self
    refine iff_of_false nofun fun ⟨readable, slots⟩ => ?_
    cases offends with
    | unreadable unspelled => exact nomatch unspelled ▸ readable offender present
    | noSlots spelled none =>
      obtain slots | nothing := slots
      · omega
      · exact nomatch nothing ▸ present

/-- A group has the configured resolvers by rising priority, those of the same priority in the order
of the configuration. It is set up exactly if all addresses can be read and there is to be a
connection, unless there is no resolver; its resolvers are then fresh, and the events tell of each
of them. Otherwise the error is that of the first resolver in this order with which something is
wrong, and the events tell of those before it. -/
theorem connect_by_priority (reachable : ∀ address, host.connectFault address = none)
    (configured : List Description) (poolSize : Nat) (downAfter : UInt32) :
    let ordered := byPriority configured
    let outcome := connect C host configured poolSize downAfter
    ordered.Perm configured ∧
      (ordered.Pairwise fun x y => x.priority ≤ y.priority) ∧
      (∀ priority, ordered.filter (·.priority = priority) =
        configured.filter (·.priority = priority)) ∧
      ((∃ group, outcome.1 = .ok group) ↔
        (∀ description ∈ configured, (Net.SocketAddress.ofString? description.endpoint).isSome) ∧
          (1 ≤ poolSize ∨ configured = [])) ∧
      (∀ group, outcome.1 = .ok group →
        List.Forall₂ (Member.Fresh poolSize) ordered group.members ∧ group.downAfter = downAfter ∧
          outcome.2 = group.members.map Member.readyEvent) ∧
      ∀ error, outcome.1 = .error error →
        ∃ before offender after, ordered = before ++ offender :: after ∧
          (∀ description ∈ before, ∀ other, ¬ description.Offends poolSize other) ∧
          offender.Offends poolSize error ∧
          ∃ members : List (Member C), List.Forall₂ (Member.Fresh poolSize) before members ∧
            outcome.2 = members.map Member.readyEvent := by
  intro ordered outcome
  have perm : ordered.Perm configured := List.mergeSort_perm configured _
  have each : SetsUp poolSize ordered (connectEach C host poolSize ordered) :=
    setsUp_connectEach reachable poolSize ordered
  have whole : outcome = ((connectEach C host poolSize ordered).1.map ({ members := ·, downAfter }),
      (connectEach C host poolSize ordered).2) := rfl
  clear_value outcome
  subst whole
  generalize connectEach C host poolSize ordered = made at each ⊢
  obtain ⟨result, events⟩ := made
  refine ⟨perm, pairwise_byPriority configured, filter_byPriority configured, ?_, ?_, ?_⟩
  · have ready : (∃ group : Group C, result.map ({ members := ·, downAfter }) = .ok group) ↔
        ∃ members, result = .ok members := by
      cases result with
      | error error => exact iff_of_false nofun nofun
      | ok members => exact iff_of_true ⟨_, rfl⟩ ⟨_, rfl⟩
    have nothing : ordered = [] ↔ configured = [] := by
      rw [← List.length_eq_zero_iff, perm.length_eq, List.length_eq_zero_iff]
    rw [ready, each.ok_iff, nothing]
    simp only [perm.mem_iff]
  · cases each with
    | upTo => exact nofun
    | all fresh =>
      rintro _ ⟨⟩
      exact ⟨fresh, rfl, rfl⟩
  · cases each with
    | all => exact nofun
    | @upTo before after offender members _ split fresh offends =>
      rintro _ ⟨⟩
      refine ⟨before, offender, after, split, fun description among other => ?_, offends,
        members, fresh, rfl⟩
      obtain ⟨_, made⟩ := Member.exists_fresh_of_mem fresh among
      exact made.not_offends other

/-- Of three resolvers the second comes first, and the others keep their order. -/
theorem connect_by_priority_tied :
    let far : Description := { id := "far", address := "192.0.2.1", priority := 2 }
    let near : Description := { id := "near", address := "2001:db8::1%3", priority := -1 }
    let tied : Description := { id := "tied", address := "[::ffff:192.0.2.3]", priority := 2 }
    let outcome := connect Unit .open_ [far, near, tied] 1 3
    (∀ address, Net.Host.open_.connectFault address = none) ∧
      ∃ group, outcome.1 = .ok group ∧
        List.Forall₂ (Member.Fresh 1) [near, far, tied] group.members ∧ group.downAfter = 3 ∧
          outcome.2 = group.members.map Member.readyEvent := by
  intro far near tied outcome
  have reachable : ∀ address, Net.Host.open_.connectFault address = none := fun _ => rfl
  have sorted : byPriority [far, near, tied] = [near, far, tied] := by
    simp [byPriority, List.mergeSort, far, near, tied]
  obtain ⟨-, -, -, ready, fresh, -⟩ :=
    connect_by_priority (C := Unit) reachable [far, near, tied] 1 3
  obtain ⟨group, connected⟩ := ready.mpr ⟨by decide +kernel, .inl (Nat.le_refl 1)⟩
  exact ⟨reachable, group, connected, sorted ▸ fresh group connected⟩

end Group

end Resolver

end DnsForwarder
