import DnsForwarder.Proofs.Resolver.Slots

/-!
# Slots in turn

Reservations go round the table: each takes the first free slot behind the one that was reserved
last. So a free slot comes closer with every reservation of another one, and is reserved before the
search has gone round once (`DnsForwarder.Resolver.Slots.reserve_goes_round`), whichever slots are
given back meanwhile.
-/

namespace DnsForwarder.Resolver.Slots

/-- A step on a table. Any slot may be given back at any time, with any connection. -/
inductive Move (C : Type) where
  | reserve
  | finalize (index : Nat) (connection : Option C)
  | close

/-- Whether a step gives a slot back. -/
def Move.isFinalize {C : Type} : Move C → Bool
  | .finalize .. => true
  | _ => false

variable {C : Type} {table after : Slots C} {reservation : Reservation C} {index : Nat}

/-- What a step does: the slot that it reserves, if there is one, and the table after it. -/
def move (table : Slots C) : Move C → Option Nat × Slots C
  | .reserve =>
    match table.reserve with
    | (.ok reservation, after) => (some reservation.slot, after)
    | (.error _, after) => (none, after)
  | .finalize index connection => (none, table.finalize index connection)
  | .close => (none, table.close)

/-- The slots that are reserved in some steps, in order, and the table after them. -/
def run (table : Slots C) : List (Move C) → List Nat × Slots C
  | [] => ([], table)
  | next :: rest =>
    let (taken, table) := table.move next
    let (others, table) := table.run rest
    (taken.toList ++ others, table)

/-- How many slots a search passes before it comes to this one. -/
def distance (table : Slots C) (index : Nat) : Nat :=
  (index + table.slots.size - table.next) % table.slots.size

/-- The search starts at a slot, if there are any. -/
def Aimed (table : Slots C) : Prop := 0 < table.slots.size → table.next < table.slots.size

/-- Going on within a table, round the end once at most. -/
theorem mod_eq_ite {place size : Nat} (once : place < size + size) :
    place % size = if place < size then place else place - size := by
  split
  next inside => exact Nat.mod_eq_of_lt inside
  next beyond => rw [Nat.mod_eq_sub_mod (Nat.not_lt.mp beyond), Nat.mod_eq_of_lt (by omega)]

/-- A free slot is one of the table. -/
theorem lt_size_of_isFree (free : table.isFree index) : index < table.slots.size := by
  obtain ⟨slot, present, -⟩ := (table.isFree_iff index).mp free
  exact (Array.getElem?_eq_some_iff.mp present).1

/-- In a table that has slots the search starts at one of them. -/
theorem Aimed.next_lt (aimed : table.Aimed) (inside : index < table.slots.size) :
    table.next < table.slots.size :=
  aimed (Nat.lt_of_le_of_lt (Nat.zero_le index) inside)

/-- A slot is as far from the start as its place is, round the end if it comes before the start. -/
theorem distance_eq_ite (start : table.next < table.slots.size)
    (inside : index < table.slots.size) :
    table.distance index =
      if table.next ≤ index then index - table.next else index + table.slots.size - table.next := by
  rw [distance, mod_eq_ite (by omega)]
  split <;> split <;> omega

/-- No slot is as far as there are slots. -/
theorem distance_lt (inside : index < table.slots.size) : table.distance index < table.slots.size :=
  Nat.mod_lt _ (Nat.lt_of_le_of_lt (Nat.zero_le index) inside)

/-- A search comes to a slot after as many others as its distance says. -/
theorem next_add_distance (start : table.next < table.slots.size)
    (inside : index < table.slots.size) :
    (table.next + table.distance index) % table.slots.size = index := by
  rw [distance_eq_ite start inside, mod_eq_ite (by split <;> omega)]
  split <;> split <;> omega

/-- Slots that are equally far are the same. -/
theorem distance_injective (start : table.next < table.slots.size) {other : Nat}
    (inside : index < table.slots.size) (there : other < table.slots.size)
    (same : table.distance index = table.distance other) : index = other := by
  rw [← next_add_distance start inside, same, next_add_distance start there]

/-- A slot is as far away as the search goes before it comes to it. -/
theorem distance_next_add (start : table.next < table.slots.size) {offset : Nat}
    (once : offset < table.slots.size) :
    table.distance ((table.next + offset) % table.slots.size) = offset := by
  have inside := Nat.mod_lt (table.next + offset) (Nat.lt_of_le_of_lt (Nat.zero_le _) once)
  rw [distance_eq_ite start inside, mod_eq_ite (by omega)]
  split <;> split <;> omega

/-- The search finds the nearest of the free slots. -/
theorem distance_le_of_firstFree? (start : table.next < table.slots.size)
    (found : table.firstFree? = some index) {other : Nat} (free : table.isFree other) :
    table.distance index ≤ table.distance other := by
  rw [firstFree?, searchOrder, List.find?_map, Option.map_eq_some_iff] at found
  obtain ⟨offset, first, rfl⟩ := found
  obtain ⟨-, among, passed⟩ := List.find?_range_eq_some.mp first
  rw [distance_next_add start (List.mem_range.mp among)]
  by_contra nearer
  have busy := passed (table.distance other) (Nat.lt_of_not_le nearer)
  rw [Function.comp_apply, next_add_distance start (lt_size_of_isFree free), free] at busy
  exact absurd busy Bool.false_ne_true

/-- A reservation is for the slot that the search finds, and the next search starts behind it. -/
theorem firstFree?_of_reserve (reserved : table.reserve = (.ok reservation, after)) :
    table.firstFree? = some reservation.slot ∧
      after.next = (reservation.slot + 1) % table.slots.size := by
  rw [reserve] at reserved
  split at reserved
  · cases congrArg Prod.fst reserved
  · split at reserved
    · cases congrArg Prod.fst reserved
    next found =>
      obtain ⟨taken, rfl⟩ := Prod.mk.inj reserved
      obtain rfl := Except.ok.inj taken
      exact ⟨found, rfl⟩

/-- A slot was free when it was reserved. -/
theorem isFree_of_reserve (reserved : table.reserve = (.ok reservation, after)) :
    table.isFree reservation.slot := by
  obtain ⟨replaces, -, -⟩ := reserve_ok reserved
  exact (table.isFree_iff _).mpr ⟨_, replaces.present, rfl⟩

/-- A reservation leaves the other slots free or reserved as they are, and its own reserved. -/
theorem isFree_after_reserve (reserved : table.reserve = (.ok reservation, after)) :
    after.isFree index ↔ table.isFree index ∧ index ≠ reservation.slot := by
  obtain ⟨replaces, -, -⟩ := reserve_ok reserved
  rw [isFree_iff, isFree_iff, replaces.getElem?]
  by_cases same : reservation.slot = index
  · rw [if_pos same]
    constructor
    · rintro ⟨slot, ⟨⟩, unreserved⟩
      cases unreserved
    · rintro ⟨-, apart⟩
      exact absurd same.symm apart
  · rw [if_neg same]
    exact (and_iff_left (Ne.symm same)).symm

/-- A reservation takes the free slot that is nearest. -/
theorem distance_lt_of_reserve (aimed : table.Aimed)
    (reserved : table.reserve = (.ok reservation, after)) (free : table.isFree index)
    (apart : index ≠ reservation.slot) :
    table.distance reservation.slot < table.distance index := by
  have there := lt_size_of_isFree free
  have start := aimed.next_lt there
  refine Nat.lt_of_le_of_ne ?_ fun same => apart ?_
  · exact distance_le_of_firstFree? start (firstFree?_of_reserve reserved).1 free
  · exact (distance_injective start (lt_size_of_isFree (isFree_of_reserve reserved))
      there same).symm

/-- A free slot that is passed over comes closer. -/
theorem distance_after_reserve (aimed : table.Aimed)
    (reserved : table.reserve = (.ok reservation, after)) (free : table.isFree index)
    (apart : index ≠ reservation.slot) : after.distance index < table.distance index := by
  have nearer := distance_lt_of_reserve aimed reserved free apart
  have there := lt_size_of_isFree free
  have start := aimed.next_lt there
  have own := lt_size_of_isFree (isFree_of_reserve reserved)
  obtain ⟨replaces, -, -⟩ := reserve_ok reserved
  have next : after.next = if reservation.slot + 1 < table.slots.size then reservation.slot + 1
      else reservation.slot + 1 - table.slots.size := by
    rw [(firstFree?_of_reserve reserved).2, mod_eq_ite (by omega)]
  rw [distance_eq_ite start own, distance_eq_ite start there] at nearer
  rw [distance_eq_ite (by rw [next, replaces.size]; split <;> omega) (by rwa [replaces.size]),
    distance_eq_ite start there, replaces.size, next]
  split at nearer <;> split at nearer <;> split <;> split <;> omega

/-- A step that reserves no slot leaves the start of the search where it is, and free slots free. -/
structure Passes (before after : Slots C) : Prop where
  next : after.next = before.next
  size : after.slots.size = before.slots.size
  free : ∀ index, before.isFree index → after.isFree index

/-- To give a slot back reserves none. -/
theorem passes_finalize (table : Slots C) (own : Nat) (back : Option C) :
    Passes table (table.finalize own back) where
  next := rfl
  size := Array.size_modify
  free index free := by
    obtain ⟨slot, present, unreserved⟩ := (table.isFree_iff index).mp free
    rw [isFree_iff, finalize, Array.getElem?_modify, present]
    by_cases same : own = index
    · rw [if_pos same]
      exact ⟨_, rfl, rfl⟩
    · rw [if_neg same]
      exact ⟨slot, rfl, unreserved⟩

/-- Closing leaves the free slots free. -/
theorem isFree_close (table : Slots C) (index : Nat) :
    table.close.isFree index = table.isFree index := by
  rw [isFree, isFree, close, Array.getElem?_map]
  cases table.slots[index]? <;> rfl

/-- What a step does: it reserves a slot, or it passes. Only giving back makes slots free. -/
theorem move_cases (table : Slots C) (next : Move C) :
    (∃ reservation after, table.reserve = (.ok reservation, after) ∧
      table.move next = (some reservation.slot, after)) ∨
    ∃ after, table.move next = (none, after) ∧ Passes table after ∧
      (next.isFinalize = false → ∀ index, after.isFree index → table.isFree index) := by
  have same : Passes table table := ⟨rfl, rfl, fun _ free => free⟩
  cases next with
  | reserve =>
    rw [move]
    cases reserved : table.reserve with
    | mk outcome after =>
      cases outcome with
      | ok reservation => exact .inl ⟨reservation, after, rfl, rfl⟩
      | error reason =>
        obtain rfl := reserve_error reserved
        exact .inr ⟨after, rfl, same, fun _ _ free => free⟩
  | finalize own back => exact .inr ⟨_, rfl, passes_finalize table own back, nofun⟩
  | close =>
    refine .inr ⟨_, rfl, ⟨rfl, Array.size_map, ?_⟩, ?_⟩
    · exact fun index free => (table.isFree_close index).trans free
    · exact fun _ index free => (table.isFree_close index).symm.trans free

/-- A run that begins with a reservation goes on with the table that it leaves. -/
theorem run_of_reserve {next : Move C} (moved : table.move next = (some index, after))
    (rest : List (Move C)) :
    table.run (next :: rest) = (index :: (after.run rest).1, (after.run rest).2) := by
  rw [run, moved]
  rfl

/-- A run that begins without a reservation goes on with the table that is left. -/
theorem run_of_pass {next : Move C} (moved : table.move next = (none, after))
    (rest : List (Move C)) :
    table.run (next :: rest) = after.run rest := by
  rw [run, moved]
  rfl

/-- After a reservation the search starts at a slot. -/
theorem aimed_of_reserve (reserved : table.reserve = (.ok reservation, after)) : after.Aimed := by
  obtain ⟨replaces, -, -⟩ := reserve_ok reserved
  intro positive
  rw [replaces.size] at positive ⊢
  rw [(firstFree?_of_reserve reserved).2]
  exact Nat.mod_lt _ positive

/-- A step that reserves no slot leaves the start at a slot. -/
theorem Aimed.pass (aimed : table.Aimed) (passes : Passes table after) : after.Aimed := by
  rw [Aimed, passes.next, passes.size]
  exact aimed

/-- Steps change neither the number of slots nor that the search starts at one of them. -/
theorem Aimed.run (aimed : table.Aimed) (moves : List (Move C)) :
    (table.run moves).2.Aimed ∧ (table.run moves).2.slots.size = table.slots.size := by
  induction moves generalizing table with
  | nil => exact ⟨aimed, rfl⟩
  | cons next rest ih =>
    obtain ⟨reservation, after, reserved, moved⟩ | ⟨after, moved, passes, -⟩ :=
      table.move_cases next
    · rw [run_of_reserve moved, ← (reserve_ok reserved).1.size]
      exact ih (aimed_of_reserve reserved)
    · rw [run_of_pass moved, ← passes.size]
      exact ih (aimed.pass passes)

/-- A free slot is not passed over more often than its distance says. -/
theorem mem_take_run (aimed : table.Aimed) (free : table.isFree index) {moves : List (Move C)}
    (enough : table.distance index < (table.run moves).1.length) :
    index ∈ (table.run moves).1.take (table.distance index + 1) := by
  induction moves generalizing table with
  | nil => exact absurd enough (Nat.not_lt_zero _)
  | cons next rest ih =>
    obtain ⟨reservation, after, reserved, moved⟩ | ⟨after, moved, passes, -⟩ :=
      table.move_cases next
    · rw [run_of_reserve moved] at enough ⊢
      rw [List.take_succ_cons]
      -- Either it is this slot's turn, or the slot is closer now, and was not taken.
      by_cases own : index = reservation.slot
      · rw [own]
        exact List.mem_cons_self
      · have nearer := distance_after_reserve aimed reserved free own
        rw [List.length_cons] at enough
        have found :=
          ih (aimed_of_reserve reserved) ((isFree_after_reserve reserved).mpr ⟨free, own⟩)
          (by omega)
        exact List.mem_cons_of_mem _ (List.take_subset_take_left _ nearer found)
    · have same : after.distance index = table.distance index := by
        rw [distance, distance, passes.next, passes.size]
      rw [run_of_pass moved, ← same] at enough ⊢
      exact ih (aimed.pass passes) (passes.free index free) enough

/-- As long as none is given back, different slots are reserved, which were free. -/
theorem nodup_run (table : Slots C) {moves : List (Move C)}
    (kept : ∀ next ∈ moves, next.isFinalize = false) :
    (table.run moves).1.Nodup ∧ ∀ index ∈ (table.run moves).1, table.isFree index := by
  induction moves generalizing table with
  | nil => exact ⟨List.nodup_nil, nofun⟩
  | cons next rest ih =>
    obtain ⟨here, there⟩ := List.forall_mem_cons.mp kept
    obtain ⟨reservation, after, reserved, moved⟩ | ⟨after, moved, -, busy⟩ := table.move_cases next
    · rw [run_of_reserve moved]
      obtain ⟨distinct, free⟩ := ih after there
      constructor
      · refine List.nodup_cons.mpr ⟨fun again => ?_, distinct⟩
        exact ((isFree_after_reserve reserved).mp (free _ again)).2 rfl
      · refine List.forall_mem_cons.mpr ⟨isFree_of_reserve reserved, fun index taken => ?_⟩
        exact ((isFree_after_reserve reserved).mp (free index taken)).1
    · rw [run_of_pass moved]
      obtain ⟨distinct, free⟩ := ih after there
      exact ⟨distinct, fun index taken => busy here index (free index taken)⟩

/-- With a reservation one more slot is reserved. -/
theorem counts_reserved_of_reserve (reserved : table.reserve = (.ok reservation, after)) :
    after.counts.reserved = table.counts.reserved + 1 := by
  obtain ⟨replaces, -, -⟩ := reserve_ok reserved
  obtain ⟨inside, free⟩ :=
    List.getElem?_eq_some_iff.mp (Array.getElem?_toList.trans replaces.present)
  have changed : after.slots.toList = table.slots.toList.set reservation.slot ⟨true, none⟩ := by
    rw [replaces.slots, Array.toList_modify, List.modify_eq_set_getElem?, Array.getElem?_toList,
      replaces.present]
    rfl
  change after.slots.countP (·.reserved) = table.slots.countP (·.reserved) + 1
  rw [← Array.countP_toList, ← Array.countP_toList, changed, List.countP_set inside, free]
  rfl

/-- Reservations one after the other take as many slots as are free. -/
theorem length_run_reserve (opened : table.closed = false) (count : Nat) :
    (table.run (List.replicate count .reserve)).1.length =
      min count (table.slots.size - table.counts.reserved) := by
  induction count generalizing table with
  | zero => exact (Nat.zero_min _).symm
  | succ count ih =>
    rw [List.replicate_succ]
    cases outcome : table.reserve with
    | mk result after =>
      cases result with
      | ok reservation =>
        obtain ⟨replaces, -, -⟩ := reserve_ok outcome
        have moved : table.move .reserve = (some reservation.slot, after) := by rw [move, outcome]
        have bounded : after.counts.reserved ≤ after.slots.size := Array.countP_le_size
        rw [run_of_reserve moved, List.length_cons, ih (replaces.closed.trans opened)]
        rw [replaces.size, counts_reserved_of_reserve outcome] at bounded ⊢
        omega
      | error reason =>
        obtain rfl := reserve_error outcome
        have moved : after.move .reserve = (none, after) := by rw [move, outcome]
        rw [run_of_pass moved, ih opened]
        cases reason with
        | closed =>
          rw [(reserve_closed after).mp (congrArg Prod.fst outcome)] at opened
          cases opened
        | exhausted =>
          have full := ((reserve_exhausted after).mp (congrArg Prod.fst outcome)).2
          change after.counts.reserved = after.slots.size at full
          omega

/-- In a new table the search starts at a slot. -/
theorem aimed_empty (C : Type) (size : Nat) : (empty C size).Aimed := by
  intro positive
  exact positive

/-- In every table that steps lead to, a reservation takes the free slot that is nearest to the
start of the search, and the next search starts behind it. From there on, whatever steps follow, a
slot that is free is taken by the time of as many reservations as there are slots before it in the
search, and one more; as long as none is given back, different slots are taken, and so all of them
if as many are taken as there are; and while the table is open, reservations one after the other
take as many as are free. -/
theorem reserve_goes_round (size : Nat) (before : List (Move C)) :
    let table := ((empty C size).run before).2
    (∀ reservation after, table.reserve = (.ok reservation, after) →
      table.isFree reservation.slot ∧ after.next = (reservation.slot + 1) % size ∧
        ∀ other, table.isFree other → other ≠ reservation.slot →
          table.distance reservation.slot < table.distance other) ∧
      (∀ index, table.isFree index → table.distance index < size ∧
        ∀ later, table.distance index < (table.run later).1.length →
          index ∈ (table.run later).1.take (table.distance index + 1)) ∧
      (∀ later : List (Move C), (∀ next ∈ later, next.isFinalize = false) →
        (table.run later).1.Nodup ∧
          ((table.run later).1.length = size → (table.run later).1.Perm (List.range size))) ∧
      (table.closed = false → ∀ count, (table.run (List.replicate count .reserve)).1.length =
        min count (size - table.counts.reserved)) := by
  intro table
  obtain ⟨aimed, same⟩ := (aimed_empty C size).run before
  have whole : table.slots.size = size := same.trans Array.size_replicate
  refine ⟨fun reservation after reserved => ?_, fun index free => ?_, fun later kept => ?_, ?_⟩
  · rw [← whole]
    exact ⟨isFree_of_reserve reserved, (firstFree?_of_reserve reserved).2,
      fun other => distance_lt_of_reserve aimed reserved⟩
  · rw [← whole]
    exact ⟨distance_lt (lt_size_of_isFree free), fun later => mem_take_run aimed free⟩
  · obtain ⟨distinct, free⟩ := nodup_run table kept
    refine ⟨distinct, fun all => ?_⟩
    have among : (table.run later).1 ⊆ List.range size := by
      intro index taken
      rw [List.mem_range, ← whole]
      exact lt_size_of_isFree (free index taken)
    exact (List.subperm_of_subset distinct among).perm_of_length_le
      (Nat.le_of_eq (List.length_range.trans all.symm))
  · rw [← whole]
    exact length_run_reserve

end DnsForwarder.Resolver.Slots
