import DnsForwarder.Resolver.Slots
import Mathlib.Data.List.Perm.Basic
import Mathlib.Data.List.Perm.Subperm

/-!
# Slots and their holders

A table of slots and the reservations that were taken out of it agree
(`DnsForwarder.Resolver.Slots.Agrees`): the reserved slots are those of the reservations, no two of
which are for the same slot, and no connection is in two places. Reserving, giving back and closing
keep this. A reservation is refused exactly if the table is closed or has no free slot
(`DnsForwarder.Resolver.Slots.reserve_closed`, `DnsForwarder.Resolver.Slots.reserve_exhausted`).
-/

namespace DnsForwarder.Resolver

/-- The value of the first member, if it has one, is in front of those of the others. -/
theorem filterMap_cons_toList {α β : Type*} (f : α → Option β) (head : α) (tail : List α) :
    (head :: tail).filterMap f = (f head).toList ++ tail.filterMap f := by
  rw [List.filterMap_cons]
  cases f head <;> rfl

/-- The values of a list are that of one member, if it has one, with those of the others. -/
theorem perm_filterMap_eraseIdx {α β : Type*} (f : α → Option β) {list : List α} {index : Nat}
    {old : α} (present : list[index]? = some old) :
    (list.filterMap f).Perm ((f old).toList ++ (list.eraseIdx index).filterMap f) := by
  obtain ⟨inside, rfl⟩ := List.getElem?_eq_some_iff.mp present
  have moved := (List.getElem_cons_eraseIdx_perm inside).filterMap f
  rw [filterMap_cons_toList] at moved
  exact moved.symm

/-- When one member is replaced its value gives way to that of the new one. -/
theorem perm_filterMap_set {α β : Type*} (f : α → Option β) {list : List α} {index : Nat} {old : α}
    (present : list[index]? = some old) (new : α) :
    ((list.set index new).filterMap f).Perm
      ((f new).toList ++ (list.eraseIdx index).filterMap f) := by
  obtain ⟨inside, -⟩ := List.getElem?_eq_some_iff.mp present
  have moved := (List.set_perm_cons_eraseIdx inside new).filterMap f
  rw [filterMap_cons_toList] at moved
  exact moved

/-- The value of a member at the end is one more. -/
theorem perm_filterMap_concat {α β : Type*} (f : α → Option β) (list : List α) (new : α) :
    ((list ++ [new]).filterMap f).Perm ((f new).toList ++ list.filterMap f) := by
  rw [List.filterMap_append, filterMap_cons_toList, List.filterMap_nil, List.append_nil]
  exact List.perm_append_comm

/-- Counting the places of elements is counting the elements. -/
theorem countP_range_any {α : Type*} (p : α → Bool) (list : List α) :
    (List.range list.length).countP (fun index => list[index]?.any p) = list.countP p := by
  induction list with
  | nil => rfl
  | cons head tail ih =>
    rw [List.length_cons, List.range_succ_eq_map, List.countP_cons, List.countP_map,
      List.countP_cons, ← ih]
    rfl

namespace Slots

variable {C : Type}

/-- A slot is reserved. -/
def IsReserved (table : Slots C) (index : Nat) : Prop :=
  ∃ slot, table.slots[index]? = some slot ∧ slot.reserved

/-- The connections that are stored. -/
def stored (table : Slots C) : List C := table.slots.toList.filterMap Slot.idle

/-- As many slots are idle as connections are stored. -/
theorem counts_idle (table : Slots C) : table.counts.idle = table.stored.length := by
  change table.slots.countP (·.idle.isSome) = table.stored.length
  rw [stored, List.length_filterMap_eq_countP, Array.countP_toList]

/-- Where no slot has an idle connection none is stored. -/
theorem stored_eq_nil {table : Slots C}
    (empty : ∀ (index : Nat) (slot : Slot C), table.slots[index]? = some slot → slot.idle = none) :
    table.stored = [] := by
  refine List.filterMap_eq_nil_iff.mpr fun slot member => ?_
  obtain ⟨index, present⟩ := List.mem_iff_getElem?.mp member
  exact empty index slot (Array.getElem?_toList.symm.trans present)

/-- A search comes to every slot and to nothing else. -/
theorem mem_searchOrder (table : Slots C) (index : Nat) :
    index ∈ table.searchOrder ↔ index < table.slots.size := by
  constructor
  · intro found
    obtain ⟨offset, inside, rfl⟩ := List.mem_map.mp found
    exact Nat.mod_lt _ (Nat.lt_of_le_of_lt (Nat.zero_le _) (List.mem_range.mp inside))
  · intro inside
    have positive : 0 < table.slots.size := Nat.lt_of_le_of_lt (Nat.zero_le _) inside
    -- The offset is the way from the start of the search, going round if the index is before that.
    let way := index + (table.slots.size - table.next % table.slots.size)
    refine List.mem_map.mpr ⟨way % table.slots.size, List.mem_range.mpr (Nat.mod_lt _ positive), ?_⟩
    have round : table.next + way =
        index + table.slots.size * (table.next / table.slots.size + 1) := by
      have split := Nat.div_add_mod table.next table.slots.size
      have small := Nat.mod_lt table.next positive
      rw [Nat.mul_succ]
      omega
    rw [Nat.add_mod_mod, round, Nat.add_mul_mod_self_left, Nat.mod_eq_of_lt inside]

/-- A slot is free if it is there and not reserved. -/
theorem isFree_iff (table : Slots C) (index : Nat) :
    table.isFree index ↔ ∃ slot, table.slots[index]? = some slot ∧ slot.reserved = false := by
  rw [isFree, Option.any_eq_true]
  simp only [Bool.not_eq_true']

/-- No slot is found free if every one is reserved. -/
theorem firstFree?_eq_none_iff (table : Slots C) :
    table.firstFree? = none ↔ ∀ index < table.slots.size, table.IsReserved index := by
  rw [firstFree?, List.find?_eq_none]
  constructor
  · intro none index inside
    have busy := none index ((table.mem_searchOrder index).mpr inside)
    rw [isFree_iff] at busy
    have present := Array.getElem?_eq_getElem inside
    refine ⟨table.slots[index], present, ?_⟩
    by_contra free
    exact busy ⟨table.slots[index], present, Bool.eq_false_iff.mpr free⟩
  · intro all index found free
    obtain ⟨slot, present, unreserved⟩ := (table.isFree_iff index).mp free
    obtain ⟨other, there, reserved⟩ := all index ((table.mem_searchOrder index).mp found)
    cases Option.some.inj (present.symm.trans there)
    exact Bool.false_ne_true (unreserved.symm.trans reserved)

/-- One slot of a table is replaced, and the others stay as they are. -/
structure Replaces (before after : Slots C) (index : Nat) (old new : Slot C) : Prop where
  present : before.slots[index]? = some old
  slots : after.slots = before.slots.modify index fun _ => new
  closed : after.closed = before.closed

namespace Replaces

variable {before after : Slots C} {index : Nat} {old new : Slot C}

/-- There are as many slots as before. -/
theorem size (replaces : Replaces before after index old new) :
    after.slots.size = before.slots.size := by
  rw [replaces.slots, Array.size_modify]

/-- At the place of the slot is the new one, and at other places what was there. -/
theorem getElem? (replaces : Replaces before after index old new) (other : Nat) :
    after.slots[other]? = if index = other then some new else before.slots[other]? := by
  rw [replaces.slots, Array.getElem?_modify]
  split
  next same =>
    rw [← same, replaces.present]
    rfl
  · rfl

/-- The slot is reserved if the new one is, and the others if they were. -/
theorem isReserved (replaces : Replaces before after index old new) (other : Nat) :
    after.IsReserved other ↔
      if index = other then new.reserved = true else before.IsReserved other := by
  rw [IsReserved, replaces.getElem?]
  split
  · simp only [Option.some.injEq, exists_eq_left']
  · rfl

/-- The connection of the new slot is stored in place of that of the old one. -/
theorem stored (replaces : Replaces before after index old new) :
    (old.idle.toList ++ after.stored).Perm (new.idle.toList ++ before.stored) := by
  have present : before.slots.toList[index]? = some old :=
    Array.getElem?_toList.trans replaces.present
  have changed : after.slots.toList = before.slots.toList.set index new := by
    rw [replaces.slots, Array.toList_modify, List.modify_eq_set_getElem?, present]
    rfl
  rw [Slots.stored, changed]
  refine ((perm_filterMap_set Slot.idle present new).append_left _).trans ?_
  refine (List.perm_append_comm_assoc _ _ _).trans ?_
  exact (perm_filterMap_eraseIdx Slot.idle present).symm.append_left _

end Replaces

/-- A refusal changes nothing. -/
theorem reserve_error {table after : Slots C} {reason : Refusal}
    (refused : table.reserve = (.error reason, after)) : after = table := by
  rw [reserve] at refused
  split at refused
  · cases refused
    rfl
  · split at refused
    · cases refused
      rfl
    · exact nomatch congrArg Prod.fst refused

/-- A reservation takes a free slot and its connection. -/
theorem reserve_ok {table after : Slots C} {reservation : Reservation C}
    (reserved : table.reserve = (.ok reservation, after)) :
    Replaces table after reservation.slot ⟨false, reservation.connection⟩ ⟨true, none⟩ ∧
      reservation.released = false ∧ table.closed = false := by
  rw [reserve] at reserved
  cases shut : table.closed with
  | true =>
    rw [shut, if_pos rfl] at reserved
    exact nomatch congrArg Prod.fst reserved
  | false =>
    rw [shut, if_neg Bool.false_ne_true] at reserved
    cases found : table.firstFree? with
    | none =>
      rw [found] at reserved
      exact nomatch congrArg Prod.fst reserved
    | some index =>
      rw [found] at reserved
      cases reserved
      obtain ⟨⟨flag, idle⟩, present, rfl⟩ := (table.isFree_iff index).mp (List.find?_some found)
      refine ⟨⟨?_, rfl, shut.symm⟩, rfl, rfl⟩
      rw [present]
      rfl

/-- Giving a slot back replaces that slot only. -/
theorem replaces_finalize {table : Slots C} {index : Nat}
    (present : table.slots[index]? = some ⟨true, none⟩) (back : Option C) :
    Replaces table (table.finalize index back) index ⟨true, none⟩
      ⟨false, if table.closed then none else back⟩ := by
  refine ⟨present, Array.ext_getElem? fun other => ?_, rfl⟩
  rw [finalize, Array.getElem?_modify, Array.getElem?_modify]
  split
  next same =>
    rw [← same, present]
    rfl
  · rfl

/-- The reason of a refusal is closing if the table is closed. -/
theorem reserve_closed (table : Slots C) :
    table.reserve.1 = .error .closed ↔ table.closed := by
  rw [reserve]
  cases table.closed with
  | true => exact ⟨fun _ => rfl, fun _ => rfl⟩
  | false =>
    cases table.firstFree? with
    | none => exact ⟨nofun, nofun⟩
    | some index => exact ⟨nofun, nofun⟩

/-- As many slots are reserved as there are if every one is. -/
theorem counts_reserved_eq_size (table : Slots C) :
    table.counts.reserved = table.slots.size ↔
      ∀ index < table.slots.size, table.IsReserved index := by
  change table.slots.countP (·.reserved) = table.slots.size ↔ _
  rw [Array.countP_eq_size]
  constructor
  · intro all index inside
    exact ⟨table.slots[index], Array.getElem?_eq_getElem inside, all _ (Array.getElem_mem inside)⟩
  · intro all slot member
    obtain ⟨index, inside, rfl⟩ := Array.mem_iff_getElem.mp member
    obtain ⟨other, there, reserved⟩ := all index inside
    cases Option.some.inj ((Array.getElem?_eq_getElem inside).symm.trans there)
    exact reserved

/-- The reason of a refusal is exhaustion if the table is open and every slot is reserved. -/
theorem reserve_exhausted (table : Slots C) :
    table.reserve.1 = .error .exhausted ↔
      table.closed = false ∧ table.counts.reserved = table.counts.size := by
  change _ ↔ table.closed = false ∧ table.counts.reserved = table.slots.size
  rw [counts_reserved_eq_size, ← firstFree?_eq_none_iff, reserve]
  cases table.closed with
  | true => exact ⟨nofun, nofun⟩
  | false =>
    cases table.firstFree? with
    | none => exact ⟨fun _ => ⟨rfl, rfl⟩, fun _ => rfl⟩
    | some index => exact ⟨nofun, nofun⟩

/-- A table agrees with the reservations that are held and with the connections that their holders
work with, given the connections that were dialed. -/
structure Agrees (size : Nat) (dialed : List C) (table : Slots C) (held : List (Reservation C))
    (carried : List C) : Prop where
  size : table.slots.size = size
  /-- A reservation that was released is not held any more. -/
  live : ∀ reservation ∈ held, reservation.released = false
  distinct : (held.map Reservation.slot).Nodup
  reserved : ∀ index, index ∈ held.map Reservation.slot ↔ table.IsReserved index
  emptied : ∀ (index : Nat) (slot : Slot C), table.slots[index]? = some slot → slot.reserved →
    slot.idle = none
  dropped : table.closed → ∀ (index : Nat) (slot : Slot C), table.slots[index]? = some slot →
    slot.idle = none
  /-- Each connection is in one place only. -/
  connections : (table.stored ++ carried).Subperm dialed

namespace Agrees

variable {size : Nat} {dialed carried : List C} {table after : Slots C}
  {held : List (Reservation C)}

/-- A new table agrees with no reservations and no connections. -/
theorem start (C : Type) (size : Nat) : Agrees size [] (.empty C size) [] [] := by
  have fresh (index : Nat) (slot : Slot C)
      (present : (Slots.empty C size).slots[index]? = some slot) :
        slot = {} := by
    rw [Slots.empty, Array.getElem?_replicate] at present
    split at present
    · exact (Option.some.inj present).symm
    · exact nomatch present
  constructor
  case size => exact Array.size_replicate
  case live => exact List.forall_mem_nil _
  case distinct => exact List.nodup_nil
  case reserved =>
    refine fun index => ⟨nofun, fun ⟨slot, present, reserved⟩ => ?_⟩
    rw [fresh index slot present] at reserved
    exact absurd reserved Bool.false_ne_true
  case emptied =>
    intro index slot present _
    rw [fresh index slot present]
  case dropped => exact fun closed => absurd closed Bool.false_ne_true
  case connections =>
    rw [stored_eq_nil fun index slot present => congrArg Slot.idle (fresh index slot present)]
    exact List.Subperm.refl []

/-- The orders in which reservations and connections are listed do not matter, and connections may
go. -/
theorem mono (agrees : Agrees size dialed table held carried) {fewer : List C}
    {others : List (Reservation C)} (same : others.Perm held) (left : fewer.Subperm carried) :
    Agrees size dialed table others fewer where
  size := agrees.size
  live reservation member := agrees.live reservation (same.mem_iff.mp member)
  distinct := (same.map Reservation.slot).nodup_iff.mpr agrees.distinct
  reserved index := (same.map Reservation.slot).mem_iff.trans (agrees.reserved index)
  emptied := agrees.emptied
  dropped := agrees.dropped
  connections := ((List.subperm_append_left _).mpr left).trans agrees.connections

/-- A connection that was dialed is carried by the one that dialed it. -/
theorem dial (agrees : Agrees size dialed table held carried) (connections : List C) :
    Agrees size (connections ++ dialed) table held (connections ++ carried) where
  size := agrees.size
  live := agrees.live
  distinct := agrees.distinct
  reserved := agrees.reserved
  emptied := agrees.emptied
  dropped := agrees.dropped
  connections := by
    refine (List.perm_append_comm_assoc _ _ _).subperm.trans ?_
    exact (List.subperm_append_left connections).mpr agrees.connections

/-- A slot that is reserved is held, and its connection is carried. -/
theorem reserve (agrees : Agrees size dialed table held carried) {reservation : Reservation C}
    (taken : table.reserve = (.ok reservation, after)) :
    Agrees size dialed after ({ reservation with connection := none } :: held)
      (reservation.connection.toList ++ carried) := by
  obtain ⟨replaces, unreleased, open_⟩ := reserve_ok taken
  -- The slot was free, and those that are held are reserved.
  have free : reservation.slot ∉ held.map Reservation.slot := by
    rw [agrees.reserved]
    rintro ⟨slot, present, reserved⟩
    cases Option.some.inj (replaces.present.symm.trans present)
    exact Bool.false_ne_true reserved
  constructor
  case size => exact replaces.size.trans agrees.size
  case live => exact List.forall_mem_cons.mpr ⟨unreleased, agrees.live⟩
  case distinct => exact List.nodup_cons.mpr ⟨free, agrees.distinct⟩
  case reserved =>
    intro index
    rw [List.map_cons, List.mem_cons, replaces.isReserved]
    split
    next same => exact ⟨fun _ => rfl, fun _ => .inl same.symm⟩
    next apart =>
      rw [← agrees.reserved]
      exact or_iff_right (Ne.symm apart)
  case emptied =>
    intro index slot present reserved
    rw [replaces.getElem?] at present
    split at present
    · cases present
      rfl
    · exact agrees.emptied index slot present reserved
  case dropped =>
    intro closed
    rw [replaces.closed, open_] at closed
    exact absurd closed Bool.false_ne_true
  case connections =>
    have moved := replaces.stored.append_right carried
    rw [List.append_assoc] at moved
    refine ((List.perm_append_comm_assoc _ _ _).trans moved).subperm.trans ?_
    exact agrees.connections

/-- The slot of a reservation is reserved and has no connection in store. -/
theorem present {reservation : Reservation C}
    (agrees : Agrees size dialed table (reservation :: held) carried) :
    table.slots[reservation.slot]? = some ⟨true, none⟩ := by
  obtain ⟨⟨flag, idle⟩, present, rfl⟩ := (agrees.reserved reservation.slot).mp List.mem_cons_self
  cases agrees.emptied _ _ present rfl
  exact present

/-- A reservation that is held is not released. -/
theorem unreleased {reservation : Option (Reservation C)}
    (agrees : Agrees size dialed table (reservation.toList ++ held) carried) :
    ∀ own ∈ reservation, own.released = false :=
  fun own holds => agrees.live own (List.mem_append_left _ (Option.mem_toList.mpr holds))

/-- A slot that is given back is not held any more, and its connection is stored or, in a closed
table, dropped. -/
theorem finalize (reservation : Reservation C) (back : Option C)
    (agrees : Agrees size dialed table (reservation :: held) (back.toList ++ carried)) :
    Agrees size dialed (table.finalize reservation.slot back) held carried := by
  have replaces := replaces_finalize agrees.present back
  obtain ⟨gone, distinct⟩ := List.nodup_cons.mp agrees.distinct
  constructor
  case size => exact replaces.size.trans agrees.size
  case live => exact (List.forall_mem_cons.mp agrees.live).2
  case distinct => exact distinct
  case reserved =>
    intro index
    rw [replaces.isReserved]
    split
    next same =>
      rw [← same]
      exact ⟨fun member => absurd member gone, fun reserved => absurd reserved Bool.false_ne_true⟩
    next apart =>
      rw [← agrees.reserved, List.map_cons, List.mem_cons]
      exact (or_iff_right (Ne.symm apart)).symm
  case emptied =>
    intro index slot present reserved
    rw [replaces.getElem?] at present
    split at present
    · cases present
      exact absurd reserved Bool.false_ne_true
    · exact agrees.emptied index slot present reserved
  case dropped =>
    intro closed index slot present
    rw [replaces.closed] at closed
    rw [replaces.getElem?] at present
    split at present
    · cases present
      rfl
    · exact agrees.dropped closed index slot present
  case connections =>
    -- What is not stored is dropped, so that there may be fewer connections, but no other.
    have kept : (if table.closed then none else back).toList.Sublist back.toList := by
      split
      · exact List.nil_sublist _
      · exact List.Sublist.refl _
    refine (replaces.stored.append_right carried).subperm.trans ?_
    rw [List.append_assoc]
    refine ((kept.append_right _).subperm).trans ?_
    exact (List.perm_append_comm_assoc _ _ _).subperm.trans agrees.connections

/-- Closing drops the stored connections and leaves what is held. -/
theorem close (agrees : Agrees size dialed table held carried) :
    Agrees size dialed table.close held carried := by
  have slots (index : Nat) : table.close.slots[index]? =
      table.slots[index]?.map fun slot => { slot with idle := none } :=
    Array.getElem?_map
  have dropped (index : Nat) (slot : Slot C) (present : table.close.slots[index]? = some slot) :
      slot.idle = none := by
    rw [slots, Option.map_eq_some_iff] at present
    obtain ⟨old, -, rfl⟩ := present
    rfl
  constructor
  case size => exact Array.size_map.trans agrees.size
  case live => exact agrees.live
  case distinct => exact agrees.distinct
  case reserved =>
    intro index
    rw [agrees.reserved, IsReserved, IsReserved, slots]
    cases table.slots[index]? with
    | none => exact Iff.rfl
    | some slot =>
      simp only [Option.map_some, Option.some.injEq, exists_eq_left']
  case emptied => exact fun index slot present _ => dropped index slot present
  case dropped => exact fun _ => dropped
  case connections =>
    rw [stored_eq_nil dropped]
    exact (List.sublist_append_right table.stored carried).subperm.trans agrees.connections

/-- A closed table has nothing more to drop. -/
theorem close_eq (agrees : Agrees size dialed table held carried) (shut : table.closed = true) :
    table.close = table := by
  have slots : table.slots.map (fun slot => { slot with idle := none }) = table.slots := by
    refine Array.ext_getElem? fun index => ?_
    rw [Array.getElem?_map]
    cases present : table.slots[index]? with
    | none => rfl
    | some slot => rw [Option.map_some, ← agrees.dropped shut index slot present]
  rw [Slots.close, slots, ← shut]

/-- As many slots are reserved as there are reservations. -/
theorem length_held (agrees : Agrees size dialed table held carried) :
    held.length = table.counts.reserved := by
  let busy (index : Nat) : Bool := table.slots.toList[index]?.any (·.reserved)
  have same : (held.map Reservation.slot).Perm
      ((List.range table.slots.toList.length).filter busy) := by
    refine (List.perm_ext_iff_of_nodup agrees.distinct (List.nodup_range.filter _)).mpr
      fun index => ?_
    rw [agrees.reserved, List.mem_filter, List.mem_range]
    constructor
    · rintro ⟨slot, present, reserved⟩
      rw [← Array.getElem?_toList] at present
      obtain ⟨inside, -⟩ := List.getElem?_eq_some_iff.mp present
      exact ⟨inside, (Option.any_eq_true _ _).mpr ⟨slot, present, reserved⟩⟩
    · rintro ⟨-, found⟩
      obtain ⟨slot, present, reserved⟩ := (Option.any_eq_true _ _).mp found
      exact ⟨slot, Array.getElem?_toList.symm.trans present, reserved⟩
  have count := same.length_eq
  rw [List.length_map, ← List.countP_eq_length_filter, countP_range_any] at count
  exact count.trans Array.countP_toList

/-- No more slots are reserved than there are. -/
theorem reserved_le (agrees : Agrees size dialed table held carried) :
    table.counts.reserved ≤ size := by
  rw [← agrees.size]
  exact Array.countP_le_size

/-- A slot is not both idle and reserved, so there are no more of these than slots. -/
theorem idle_add_reserved_le (agrees : Agrees size dialed table held carried) :
    table.counts.idle + table.counts.reserved ≤ size := by
  have disjoint : table.slots.toList.countP (·.idle.isSome) ≤
      table.slots.toList.countP fun slot => ¬ slot.reserved := by
    refine List.countP_mono_left fun slot member idle => decide_eq_true fun reserved => ?_
    obtain ⟨index, present⟩ := List.mem_iff_getElem?.mp member
    rw [agrees.emptied index slot (Array.getElem?_toList.symm.trans present) reserved] at idle
    exact Bool.false_ne_true idle
  have all := List.length_eq_countP_add_countP (·.reserved) (l := table.slots.toList)
  rw [Array.length_toList, agrees.size] at all
  change table.slots.countP (·.idle.isSome) + table.slots.countP (·.reserved) ≤ size
  rw [← Array.countP_toList, ← Array.countP_toList]
  omega

end Agrees

end Slots

end DnsForwarder.Resolver
