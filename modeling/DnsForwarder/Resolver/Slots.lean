/-!
# Connection slots

A fixed number of slots store at most one idle connection each. An exchange reserves a slot and
takes out its connection, works without the table, and gives the slot back with a connection or
without one. A reservation that is dropped before it was released gives its slot back empty.
Reservations go round: the search starts after the slot that was reserved last.

The type `C` stands for connections; the table neither makes nor looks into them.
-/

namespace DnsForwarder.Resolver

/-- A slot: whether it is reserved, and the connection that it stores. -/
structure Slot (C : Type) where
  reserved : Bool := false
  idle : Option C := none
deriving DecidableEq

/-- A table of slots. -/
structure Slots (C : Type) where
  slots : Array (Slot C)
  /-- Where the next search starts. -/
  next : Nat := 0
  closed : Bool := false
deriving DecidableEq

/-- A slot that was taken out of the table, with the connection that was in it. -/
structure Reservation (C : Type) where
  slot : Nat
  connection : Option C
  /-- Whether the slot was given back already. -/
  released : Bool := false
deriving DecidableEq

/-- Why no slot can be reserved. -/
inductive Refusal where
  | closed
  | exhausted
deriving DecidableEq, Repr

/-- How many slots there are, how many are reserved and how many hold a connection. -/
structure SlotCounts where
  size : Nat
  reserved : Nat
  idle : Nat
deriving DecidableEq, Repr

namespace Slots

variable {C : Type}

/-- A number of free slots without connections. -/
def empty (C : Type) (size : Nat) : Slots C := { slots := Array.replicate size {} }

/-- The slots in the order of the search. -/
def searchOrder (table : Slots C) : List Nat :=
  (List.range table.slots.size).map fun offset => (table.next + offset) % table.slots.size

/-- Whether there is a slot at a place and it can be reserved. -/
def isFree (table : Slots C) (index : Nat) : Bool :=
  table.slots[index]?.any fun slot => !slot.reserved

/-- The first free slot in the order of the search. -/
def firstFree? (table : Slots C) : Option Nat := table.searchOrder.find? table.isFree

/-- Reserves the first free slot and takes its connection out. -/
def reserve (table : Slots C) : Except Refusal (Reservation C) × Slots C :=
  if table.closed then (.error .closed, table)
  else
    match table.firstFree? with
    | none => (.error .exhausted, table)
    | some index =>
      (.ok { slot := index, connection := table.slots[index]?.bind Slot.idle },
        { table with
          slots := table.slots.modify index fun _ => { reserved := true, idle := none }
          next := (index + 1) % table.slots.size })

/-- Frees a slot, which stores what is given back with it unless the table is closed. -/
def finalize (table : Slots C) (index : Nat) (connection : Option C) : Slots C :=
  { table with
    slots := table.slots.modify index fun slot =>
      { reserved := false, idle := if table.closed then slot.idle else connection } }

/-- Drops the idle connections and refuses reservations from now on. -/
def close (table : Slots C) : Slots C :=
  { table with
    closed := true
    slots := table.slots.map fun slot => { slot with idle := none } }

/-- The counts of a table. -/
def counts (table : Slots C) : SlotCounts where
  size := table.slots.size
  reserved := table.slots.countP (·.reserved)
  idle := table.slots.countP (·.idle.isSome)

end Slots

namespace Reservation

variable {C : Type}

/-- Drops a reservation: the slot is given back empty, unless it was given back already. -/
def drop (reservation : Reservation C) (table : Slots C) : Slots C :=
  if reservation.released then table else table.finalize reservation.slot none

/-- Gives a slot back with a connection; after that the reservation is dropped. -/
def release (reservation : Reservation C) (connection : C) (table : Slots C) : Slots C :=
  let reservation := { reservation with released := true }
  reservation.drop (table.finalize reservation.slot (some connection))

end Reservation

end DnsForwarder.Resolver
