import DnsForwarder.Proofs.Net.Number

/-!
# Literals of addresses

The literal of an IPv4 address is the text that is written for it. Those of an IPv6 address are
groups with colons between them, where an IPv4 address may stand for the last two and two colons for
zero groups (`DnsForwarder.Net.IPv6.Literal`); the number of an interface may follow it. Readers
take a literal that ends where nothing goes on with it, and nothing but literals
(`DnsForwarder.Net.IPv4.read_eq_some_iff`, `DnsForwarder.Net.IPv6.read_append`,
`DnsForwarder.Net.IPv6.exists_literal_of_read`).
-/

namespace DnsForwarder

namespace Net

open Text (digit?)

/-- A character is read if it comes first. -/
theorem readChar_eq_some_iff {c : Char} {text rest : List Char} {nothing : Unit} :
    readChar c text = some (nothing, rest) ↔ text = c :: rest := by
  cases text with
  | nil => exact iff_of_false nofun nofun
  | cons x others =>
    rw [readChar, Option.ite_none_right_eq_some, Option.some.injEq, Prod.mk.injEq, List.cons.injEq]
    exact and_congr_right' (and_iff_right rfl)

/-- A character that comes first is read. -/
theorem readChar_cons (c : Char) (rest : List Char) : readChar c (c :: rest) = some ((), rest) :=
  readChar_eq_some_iff.mpr rfl

/-! ## IPv4 -/

namespace IPv4

/-- An IPv4 address is read from its text, where no more digits follow, and from no other. -/
theorem read_eq_some_iff {text rest : List Char} {ip : IPv4} :
    read text = some (ip, rest) ↔ text = ip.text ++ rest ∧ NumberForm.octet.Ends rest := by
  simp only [read, Option.bind_eq_bind, Option.bind_eq_some_iff, Prod.exists, readChar_eq_some_iff,
    readNumber_eq_some_iff, octet_spells_iff, Option.some.injEq, Prod.mk.injEq]
  constructor
  · rintro ⟨a, _, ⟨_, rfl, ⟨aBound, rfl⟩, -⟩, _, _, rfl, b, _, ⟨_, rfl, ⟨bBound, rfl⟩, -⟩, _,
      _, rfl, c, _, ⟨_, rfl, ⟨cBound, rfl⟩, -⟩, _, _, rfl, d, _,
      ⟨_, rfl, ⟨dBound, rfl⟩, ends⟩, rfl, rfl⟩
    refine ⟨?_, ends⟩
    have octet {n : Nat} (bound : n < UInt8.size) : (UInt8.ofNat n).toNat = n :=
      UInt8.toNat_ofNat_of_lt bound
    simp only [text, octet aBound, octet bBound, octet cBound, octet dBound, List.append_assoc,
      List.cons_append]
  · rintro ⟨rfl, ends⟩
    have point (others : List Char) : NumberForm.octet.Ends ('.' :: others) := by
      rintro _ ⟨⟩
      rfl
    refine ⟨ip.a.toNat, _, ⟨_, ?_, ⟨ip.a.toNat_lt, rfl⟩, point _⟩, (), _, rfl, ip.b.toNat, _,
      ⟨_, rfl, ⟨ip.b.toNat_lt, rfl⟩, point _⟩, (), _, rfl, ip.c.toNat, _,
      ⟨_, rfl, ⟨ip.c.toNat_lt, rfl⟩, point _⟩, (), _, rfl, ip.d.toNat, _,
      ⟨_, rfl, ⟨ip.d.toNat_lt, rfl⟩, ends⟩, ?_, rfl⟩
    · simp only [text, List.append_assoc, List.cons_append]
    · simp only [UInt8.ofNat_toNat]

/-- Where no digit comes next, no address is read. -/
theorem read_eq_none {text : List Char} (ends : NumberForm.octet.Ends text) : read text = none := by
  rw [read, readNumber_eq_none ends]
  rfl

/-- Behind digits that no point follows there is no address, as it would have one behind its first
octet. -/
theorem read_group_eq_none {digits rest : List Char} {value : Nat}
    (spells : NumberForm.group.Spells digits value) (ends : NumberForm.group.Ends rest)
    (pointless : rest.head? ≠ some '.') : read (digits ++ rest) = none := by
  refine Option.eq_none_iff_forall_ne_some.mpr fun ⟨ip, after⟩ taken => ?_
  have split := (read_eq_some_iff.mp taken).1
  simp only [text, List.append_assoc, List.cons_append] at split
  obtain ⟨more, octet, rfl⟩ | ⟨more, rfl, points⟩ := List.append_eq_append_iff.mp split
  · cases more with
    | nil => exact pointless rfl
    | cons c others =>
      have inOctet : c ∈ decimal ip.a.toNat := octet ▸ List.mem_append_right _ List.mem_cons_self
      have digit : (digit? NumberForm.group.radix c).isSome :=
        hexadecimal_of_decimal (digit_of_mem_decimal inOctet)
      rw [ends c rfl] at digit
      exact nomatch digit
  · cases more with
    | nil => exact pointless (congrArg List.head? points).symm
    | cons c others =>
      obtain ⟨rfl, -⟩ := List.cons.inj points
      exact nomatch spells.digit '.' (List.mem_append_right _ List.mem_cons_self)

end IPv4

namespace IPv6

/-- The colon that goes before every group but the first. -/
def separator : (first : Bool) → List Char
  | true => []
  | false => [':']

/-- Groups with colons between them, the first with one before it unless it is the first of all. The
last two may be written as an IPv4 address. -/
inductive Sequence : (first embedded : Bool) → List Char → List UInt16 → Prop where
  | nil {first : Bool} : Sequence first false [] []
  | embedded {first : Bool} (ip : IPv4) : Sequence first true (separator first ++ ip.text) ip.groups
  | group {first embedded : Bool} {digits rest : List Char} {value : Nat} {groups : List UInt16}
    (number : NumberForm.group.Spells digits value) (others : Sequence false embedded rest groups) :
    Sequence first embedded (separator first ++ digits ++ rest) (UInt16.ofNat value :: groups)

/-- A text spells an IPv6 address: by its eight groups, or with two colons in the place of one zero
group or more. An IPv4 address may stand at the end only. -/
inductive Literal : List Char → IPv6 → Prop where
  | whole {embedded : Bool} {text : List Char} {ip : IPv6}
    (groups : Sequence true embedded text ip.groups) :
    Literal text ip
  | shortened {embedded : Bool} {front back : List Char} {head tail : List UInt16} {ip : IPv6}
    (before : Sequence true false front head) (after : Sequence true embedded back tail)
    (room : head.length + tail.length < 8)
    (groups : ip.groups = head ++ List.replicate (8 - head.length - tail.length) 0 ++ tail) :
    Literal (front ++ ':' :: ':' :: back) ip

/-- What comes next does not go on with a group. -/
inductive Stop : List Char → Prop where
  | bracket (rest : List Char) : Stop (']' :: rest)
  | interface (rest : List Char) : Stop ('%' :: rest)
  | gap (rest : List Char) : Stop (':' :: ':' :: rest)

/-- A colon is read in front of each group but the first. -/
theorem readSeparator_eq_some_iff {first : Bool} {text rest : List Char} {nothing : Unit} :
    readSeparator first text = some (nothing, rest) ↔ text = separator first ++ rest := by
  cases first with
  | false => exact readChar_eq_some_iff
  | true =>
    change some ((), text) = some (nothing, rest) ↔ text = rest
    rw [Option.some.injEq, Prod.mk.injEq, and_iff_right rfl]

namespace Stop

variable {rest : List Char}

/-- Where a literal stops no digits of a group follow. -/
theorem groupEnds (stop : Stop rest) : NumberForm.group.Ends rest := by
  cases stop <;> rintro _ ⟨⟩ <;> rfl

/-- Where a literal stops no digits of an octet follow. -/
theorem octetEnds (stop : Stop rest) : NumberForm.octet.Ends rest := by
  cases stop <;> rintro _ ⟨⟩ <;> rfl

/-- Where a literal stops no point follows. -/
theorem pointless (stop : Stop rest) : rest.head? ≠ some '.' := by
  cases stop <;> rintro ⟨⟩

end Stop

/-! ### Groups -/

/-- What is read of groups is a sequence of them, and there are no more than there is room for. -/
theorem readGroups_sound (room : Nat) (first : Bool) (text : List Char) :
    ∃ front, text = front ++ (readGroups room first text).rest ∧
      Sequence first (readGroups room first text).embedded front
        (readGroups room first text).groups ∧
      (readGroups room first text).groups.length ≤ room := by
  induction room generalizing first text with
  | zero => exact ⟨[], rfl, .nil, Nat.le_refl 0⟩
  | succ room ih =>
    rw [readGroups]
    split
    next ip rest embedded =>
      rw [Option.ite_none_left_eq_some] at embedded
      obtain ⟨more, read⟩ := embedded
      obtain ⟨⟨_, _⟩, separated, octets⟩ := Option.bind_eq_some_iff.mp read
      rw [readSeparator_eq_some_iff.mp separated, (IPv4.read_eq_some_iff.mp octets).1]
      refine ⟨_, (List.append_assoc _ _ _).symm, .embedded ip, ?_⟩
      change 2 ≤ room + 1
      omega
    next =>
      dsimp only
      split
      next value rest group =>
        obtain ⟨⟨_, _⟩, separated, number⟩ := Option.bind_eq_some_iff.mp group
        obtain ⟨digits, rfl, spells, -⟩ := readNumber_eq_some_iff.mp number
        obtain ⟨front, split, others, short⟩ := ih false rest
        refine ⟨_, ?_, .group spells others, Nat.succ_le_succ short⟩
        rw [readSeparator_eq_some_iff.mp separated, List.append_assoc, List.append_assoc, ← split]
      next => exact ⟨[], rfl, .nil, Nat.zero_le _⟩

/-- Where nothing goes on with a group, none is read. -/
theorem readGroups_stop {rest : List Char} (stop : Stop rest) (room : Nat) (first : Bool) :
    readGroups room first rest = ⟨[], false, rest⟩ := by
  cases room with
  | zero => rfl
  | succ room =>
    -- A separator may be read only where two colons come next, and then the second is no digit.
    have none {after : List Char} {nothing : Unit}
        (separated : readSeparator first rest = some (nothing, after)) :
          IPv4.read after = none ∧ readNumber .group after = none := by
      have split := readSeparator_eq_some_iff.mp separated
      cases first with
      | true =>
        cases split
        exact ⟨IPv4.read_eq_none stop.octetEnds, readNumber_eq_none stop.groupEnds⟩
      | false =>
        cases stop with
        | bracket => exact nomatch split
        | interface => exact nomatch split
        | gap others =>
          cases split
          exact ⟨rfl, rfl⟩
    rw [readGroups]
    cases separated : readSeparator first rest with
    | none => simp
    | some read =>
      obtain ⟨nothing, after⟩ := read
      simp [none separated]

/-- Behind the first group of a sequence neither digits of it nor a point follow. -/
theorem Sequence.ends {embedded : Bool} {text rest : List Char} {groups : List UInt16}
    (sequence : Sequence false embedded text groups) (stop : Stop rest) :
    NumberForm.group.Ends (text ++ rest) ∧ (text ++ rest).head? ≠ some '.' := by
  cases sequence with
  | nil => exact ⟨stop.groupEnds, stop.pointless⟩
  | embedded | group =>
    constructor
    · rintro _ ⟨⟩
      rfl
    · rintro ⟨⟩

/-- Groups are read as far as they go, as no group is taken for the first octet of an IPv4
address. -/
theorem readGroups_append {first embedded : Bool} {front rest : List Char} {groups : List UInt16}
    (sequence : Sequence first embedded front groups) (stop : Stop rest) {room : Nat}
    (short : groups.length ≤ room) :
    readGroups room first (front ++ rest) = ⟨groups, embedded, rest⟩ := by
  have separated (first : Bool) (after : List Char) :
      readSeparator first (separator first ++ after) = some ((), after) :=
        readSeparator_eq_some_iff.mpr rfl
  induction sequence generalizing room with
  | nil => exact readGroups_stop stop room _
  | @embedded first ip =>
    obtain ⟨room, rfl⟩ : ∃ more, room = more + 2 := ⟨room - 2, by change 2 ≤ room at short; omega⟩
    have octets : IPv4.read (ip.text ++ rest) = some (ip, rest) :=
      IPv4.read_eq_some_iff.mpr ⟨rfl, stop.octetEnds⟩
    rw [readGroups, List.append_assoc]
    simp [separated, octets]
  | @group first embedded digits others value groups number sequence ih =>
    obtain ⟨room, rfl⟩ : ∃ more, room = more + 1 :=
      ⟨room - 1, by rw [List.length_cons] at short; omega⟩
    obtain ⟨ends, pointless⟩ := sequence.ends stop
    have octets : IPv4.read (digits ++ (others ++ rest)) = none :=
      IPv4.read_group_eq_none number ends pointless
    have group : readNumber .group (digits ++ (others ++ rest)) = some (value, others ++ rest) :=
      readNumber_eq_some_iff.mpr ⟨digits, rfl, number, ends⟩
    rw [readGroups, List.append_assoc, List.append_assoc]
    simp [separated, octets, group, ih (Nat.le_of_succ_le_succ short)]

/-! ### Whole addresses -/

/-- Eight groups make an address. -/
theorem ofGroups?_eq_some_iff {groups : List UInt16} {ip : IPv6} :
    ofGroups? groups = some ip ↔ ip.groups = groups := by
  unfold ofGroups?
  constructor
  · intro made
    split at made
    · cases made
      rfl
    · exact nomatch made
  · rintro rfl
    exact dif_pos ip.length_groups

/-- Nothing but a literal is read. -/
theorem exists_literal_of_read {text rest : List Char} {ip : IPv6}
    (taken : read text = some (ip, rest)) :
    ∃ front, text = front ++ rest ∧ Literal front ip := by
  obtain ⟨front, split, before, short⟩ := readGroups_sound 8 true text
  rw [read] at taken
  generalize readGroups 8 true text = head at taken split before short
  obtain ⟨groups, embedded, others⟩ := head
  dsimp only at taken split before short
  split at taken
  next =>
    obtain ⟨_, made, same⟩ := Option.map_eq_some_iff.mp taken
    cases same
    rw [← ofGroups?_eq_some_iff.mp made] at before
    exact ⟨front, split, .whole before⟩
  next fewer =>
    split at taken
    next => exact nomatch taken
    next plain =>
      rw [Bool.not_eq_true] at plain
      subst plain
      split at taken
      next behind =>
        obtain ⟨back, splitBack, after, shortBack⟩ :=
          readGroups_sound (7 - groups.length) true behind
        obtain ⟨_, made, same⟩ := Option.map_eq_some_iff.mp taken
        cases same
        refine ⟨_, ?_, .shortened before after (by omega) (ofGroups?_eq_some_iff.mp made)⟩
        rw [split, List.append_assoc, List.cons_append, List.cons_append, ← splitBack]
      next => exact nomatch taken

/-- A literal is read as far as it goes. -/
theorem read_append {front rest : List Char} {ip : IPv6} (literal : Literal front ip)
    (stop : Stop rest) :
    read (front ++ rest) = some (ip, rest) := by
  have size := ip.length_groups
  cases literal with
  | whole groups =>
    simp only [read, readGroups_append groups stop (Nat.le_of_eq size), size, if_true,
      ofGroups?_eq_some_iff.mpr rfl, Option.map_some]
  | @shortened embedded front back head tail _ before after room groups =>
    have headRead : readGroups 8 true (front ++ ':' :: ':' :: (back ++ rest)) = ⟨head, false, _⟩ :=
      readGroups_append before (.gap (back ++ rest)) (by omega)
    have tailRead : readGroups (7 - head.length) true (back ++ rest) = ⟨tail, embedded, rest⟩ :=
      readGroups_append after stop (by omega)
    have fewer : head.length ≠ 8 := by omega
    rw [List.append_assoc, List.cons_append, List.cons_append, read]
    simp only [headRead, tailRead, if_neg fewer, Bool.false_eq_true, if_false,
      ofGroups?_eq_some_iff.mpr groups, Option.map_some]

/-! ### Characters -/

/-- The characters of groups. -/
abbrev IsGroupMark (c : Char) : Prop := (digit? 16 c).isSome ∨ c = ':' ∨ c = '.'

/-- The characters of an IPv4 address may stand in a literal. -/
theorem isGroupMark_of_mem_octets {ip : IPv4} {c : Char} (member : c ∈ ip.text) :
    IsGroupMark c := by
  simp only [IPv4.text, List.append_assoc, List.cons_append, List.mem_append, List.mem_cons]
    at member
  have digit {n : Nat} (member : c ∈ decimal n) : IsGroupMark c :=
    .inl (hexadecimal_of_decimal (digit_of_mem_decimal member))
  obtain member | rfl | member | rfl | member | rfl | member := member
  · exact digit member
  · exact .inr (.inr rfl)
  · exact digit member
  · exact .inr (.inr rfl)
  · exact digit member
  · exact .inr (.inr rfl)
  · exact digit member

/-- A colon may stand in a literal. -/
theorem isGroupMark_of_mem_separator {first : Bool} {c : Char} (member : c ∈ separator first) :
    IsGroupMark c := by
  cases first with
  | true => exact nomatch member
  | false => exact .inr (.inl (List.mem_singleton.mp member))

/-- The characters of a sequence may stand in a literal. -/
theorem Sequence.isGroupMark {first embedded : Bool} {text : List Char} {groups : List UInt16}
    (sequence : Sequence first embedded text groups) {c : Char} (member : c ∈ text) :
    IsGroupMark c := by
  induction sequence with
  | nil => exact nomatch member
  | embedded ip =>
    obtain member | member := List.mem_append.mp member
    · exact isGroupMark_of_mem_separator member
    · exact isGroupMark_of_mem_octets member
  | group number others ih =>
    rw [List.append_assoc, List.mem_append, List.mem_append] at member
    obtain member | member | member := member
    · exact isGroupMark_of_mem_separator member
    · exact .inl (number.digit c member)
    · exact ih member

/-- The characters of a literal are digits of groups, colons and points. -/
theorem Literal.isGroupMark {text : List Char} {ip : IPv6} (literal : Literal text ip) {c : Char}
    (member : c ∈ text) : IsGroupMark c := by
  cases literal with
  | whole groups => exact groups.isGroupMark member
  | shortened before after room groups =>
    obtain member | member := List.mem_append.mp member
    · exact before.isGroupMark member
    · obtain rfl | rfl | member : c = ':' ∨ c = ':' ∨ c ∈ _ := by simpa using member
      · exact .inr (.inl rfl)
      · exact .inr (.inl rfl)
      · exact after.isGroupMark member

/-- An IPv6 literal has a colon. -/
theorem Literal.colon_mem {text : List Char} {ip : IPv6} (literal : Literal text ip) :
    ':' ∈ text := by
  cases literal with
  | shortened before after room groups => exact List.mem_append_right _ List.mem_cons_self
  | whole groups =>
    have size := ip.length_groups
    generalize ip.groups = list at groups size
    cases groups with
    | nil => exact nomatch size
    | embedded => exact nomatch size
    | group number others =>
      refine List.mem_append_right _ ?_
      cases others with
      | nil => exact nomatch size
      | embedded => exact List.mem_cons_self
      | group => exact List.mem_cons_self

end IPv6

end Net

end DnsForwarder
