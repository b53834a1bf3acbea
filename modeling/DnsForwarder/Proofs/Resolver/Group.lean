import DnsForwarder.Resolver.Group

/-!
# The order of a group

A group has the configured resolvers by rising priority
(`DnsForwarder.Resolver.Group.pairwise_byPriority`), and those of the same priority in the order of
the configuration (`DnsForwarder.Resolver.Group.filter_byPriority`). What happens to one of them
leaves the others alone.
-/

namespace DnsForwarder.Resolver

variable {C : Type}

/-- A member that is connected is described as it was configured. -/
theorem Member.connect_description {host : Net.Host} {description : Description} {poolSize : Nat}
    {member : Member C} (connected : connect C host description poolSize = .ok member) :
    member.description = description := by
  unfold connect at connected
  cases spelled : description.socketAddress with
  | error error =>
    simp only [spelled, bind, Except.bind] at connected
    exact nomatch connected
  | ok address =>
    simp only [spelled, bind, Except.bind] at connected
    cases made : Pool.connect C host address poolSize with
    | error error =>
      simp only [made] at connected
      exact nomatch connected
    | ok pool =>
      simp only [made, pure, Except.pure] at connected
      cases connected
      rfl

/-- A resolver with an address that can be connected to is set up. -/
theorem Member.connect_of_reachable {host : Net.Host} {description : Description}
    {address : Net.SocketAddress} (reachable : host.connectFault address = none)
    (spelled : description.socketAddress = .ok address)
    {poolSize : Nat} (room : poolSize ≠ 0) :
    connect C host description poolSize =
      .ok { description, pool := { server := address, table := .empty C poolSize } } := by
  have reached : Pool.connect C host address poolSize =
      .ok { server := address, table := .empty C poolSize } := by
    rw [Pool.connect, if_neg room, reachable]
  unfold connect
  rw [spelled]
  simp only [bind, Except.bind, reached]
  rfl

/-- On a host where every address can be reached, a resolver with an address is set up. -/
theorem Member.connect_open {description : Description} {address : Net.SocketAddress}
    (spelled : description.socketAddress = .ok address) {poolSize : Nat} (room : poolSize ≠ 0) :
    connect C .open_ description poolSize =
      .ok { description, pool := { server := address, table := .empty C poolSize } } :=
  connect_of_reachable rfl spelled room

namespace Group

/-- The order by priority is transitive. -/
theorem priority_trans (x y z : Description) (first : decide (x.priority ≤ y.priority))
    (second : decide (y.priority ≤ z.priority)) : decide (x.priority ≤ z.priority) :=
  decide_eq_true (Int.le_trans (of_decide_eq_true first) (of_decide_eq_true second))

/-- Of two descriptions one does not come after the other. -/
theorem priority_total (x y : Description) :
    decide (x.priority ≤ y.priority) || decide (y.priority ≤ x.priority) := by
  rw [Bool.or_eq_true, decide_eq_true_eq, decide_eq_true_eq]
  exact Int.le_total x.priority y.priority

/-- Descriptions in order have priorities that do not fall. -/
theorem pairwise_byPriority (descriptions : List Description) :
    (byPriority descriptions).Pairwise fun x y => x.priority ≤ y.priority :=
  (List.pairwise_mergeSort priority_trans priority_total descriptions).imp of_decide_eq_true

/-- Resolvers of one priority keep their order. -/
theorem filter_byPriority (descriptions : List Description) (priority : Int) :
    (byPriority descriptions).filter (·.priority = priority) =
      descriptions.filter (·.priority = priority) := by
  let among := descriptions.filter (·.priority = priority)
  have level : among.Pairwise fun x y => decide (x.priority ≤ y.priority) := by
    refine List.pairwise_of_forall_mem_list fun x first y second => ?_
    have left := of_decide_eq_true (List.mem_filter.mp first).2
    have right := of_decide_eq_true (List.mem_filter.mp second).2
    exact decide_eq_true (Int.le_of_eq (left.trans right.symm))
  have kept : among.Sublist (byPriority descriptions) :=
    List.sublist_mergeSort priority_trans priority_total level List.filter_sublist
  have inside : among.Sublist ((byPriority descriptions).filter (·.priority = priority)) := by
    have again := kept.filter (·.priority = priority)
    rw [List.filter_filter] at again
    simp only [Bool.and_self] at again
    exact again
  have count : among.length = ((byPriority descriptions).filter (·.priority = priority)).length :=
    ((List.mergeSort_perm descriptions _).filter _).length_eq.symm
  exact (inside.eq_of_length count).symm

/-- If all are connected, then the first and the others are. -/
theorem connectEach_cons (host : Net.Host) (poolSize : Nat) (description : Description)
    (rest : List Description) {members : List (Member C)}
    (connected : (connectEach C host poolSize (description :: rest)).1 = .ok members) :
    ∃ member others, Member.connect C host description poolSize = .ok member ∧
      (connectEach C host poolSize rest).1 = .ok others ∧ members = member :: others := by
  rw [connectEach] at connected
  generalize Member.connect C host description poolSize = first at connected ⊢
  generalize connectEach C host poolSize rest = after at connected ⊢
  obtain ⟨result, events⟩ := after
  cases first with
  | error error => exact nomatch connected
  | ok member =>
    cases result with
    | error error => exact nomatch connected
    | ok others => exact ⟨member, others, rfl, rfl, (Except.ok.inj connected).symm⟩

/-- Members that are connected are described as they were configured, in order. -/
theorem connectEach_descriptions (host : Net.Host) (poolSize : Nat)
    (descriptions : List Description) {members : List (Member C)}
    (connected : (connectEach C host poolSize descriptions).1 = .ok members) :
    members.map Member.description = descriptions := by
  induction descriptions generalizing members with
  | nil =>
    cases connected
    rfl
  | cons description rest ih =>
    obtain ⟨member, others, first, after, rfl⟩ :=
      connectEach_cons host poolSize description rest connected
    rw [List.map_cons, ih after, Member.connect_description first]

/-- A group that is set up has the resolvers of the configuration by rising priority. -/
theorem connect_descriptions {host : Net.Host} {configured : List Description} {poolSize : Nat}
    {downAfter : UInt32} {group : Group C}
    (connected : (connect C host configured poolSize downAfter).1 = .ok group) :
    group.members.map Member.description = byPriority configured := by
  unfold connect at connected
  have each (members : List (Member C)) :
      (connectEach C host poolSize (byPriority configured)).1 = .ok members →
        members.map Member.description = byPriority configured :=
    connectEach_descriptions host poolSize (byPriority configured)
  generalize connectEach C host poolSize (byPriority configured) = made at connected each
  obtain ⟨result, events⟩ := made
  cases result with
  | error error => exact nomatch connected
  | ok members =>
    cases connected
    exact each members rfl

/-- The resolvers of a group that was set up are by rising priority, in whatever state they are, and
those of the same priority keep the order of the configuration. -/
theorem connect_order {host : Net.Host} {configured : List Description} {poolSize : Nat}
    {downAfter : UInt32} {group : Group C}
    (connected : (connect C host configured poolSize downAfter).1 = .ok group)
    {members : List (Member C)}
    (same : members.map Member.description = group.members.map Member.description) :
    (members.Pairwise fun x y => x.description.priority ≤ y.description.priority) ∧
      ∀ priority, (members.map Member.description).filter (·.priority = priority) =
        configured.filter (·.priority = priority) := by
  have order : members.map Member.description = byPriority configured :=
    same.trans (connect_descriptions connected)
  have sorted := pairwise_byPriority configured
  rw [← order, List.pairwise_map] at sorted
  refine ⟨sorted, fun priority => ?_⟩
  rw [order, filter_byPriority]

end Group

end DnsForwarder.Resolver
