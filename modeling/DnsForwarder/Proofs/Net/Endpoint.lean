import DnsForwarder.Proofs.Net.Literal

/-!
# Endpoints

An endpoint is the text of an address and a port, where an address that looks like IPv6 is put into
brackets. It spells a socket address if the address is a literal, with brackets around it or, for
IPv6, without them, and then this address with this port
(`DnsForwarder.Net.ofString?_endpoint_eq_some_iff`). The brackets go by the first character and by
whether there is a colon, but no text becomes an address by them: what stands before the last colon
of a socket address is an IPv4 literal or has both brackets.
-/

namespace DnsForwarder

namespace Net

/-! ## Socket addresses -/

namespace SocketAddress

/-- An IPv6 literal and what may follow it, which is the number of an interface. Without it the
number is zero. -/
inductive ScopedLiteral : List Char → IPv6 → UInt32 → Prop where
  | plain {text : List Char} {ip : IPv6} (literal : IPv6.Literal text ip) : ScopedLiteral text ip 0
  | onInterface {text digits : List Char} {ip : IPv6} {value : Nat} (literal : IPv6.Literal text ip)
    (number : NumberForm.scope.Spells digits value) :
    ScopedLiteral (text ++ '%' :: digits) ip (UInt32.ofNat value)

/-- A text spells a socket address: an IPv4 literal, or an IPv6 literal in brackets, and behind a
colon the port. -/
inductive Spells : List Char → SocketAddress → Prop where
  | v4 (ip : IPv4) {digits : List Char} {value : Nat} (port : NumberForm.port.Spells digits value) :
    Spells (ip.text ++ ':' :: digits) (.v4 ip (UInt16.ofNat value))
  | v6 {text digits : List Char} {ip : IPv6} {scope : UInt32} {value : Nat}
    (literal : ScopedLiteral text ip scope) (port : NumberForm.port.Spells digits value) :
    Spells ('[' :: text ++ ']' :: ':' :: digits) (.v6 ip scope (UInt16.ofNat value))

/-- A literal of an IPv6 address has a colon, also with an interface. -/
theorem ScopedLiteral.colon_mem {text : List Char} {ip : IPv6} {scope : UInt32}
    (literal : ScopedLiteral text ip scope) : ':' ∈ text := by
  cases literal with
  | plain literal => exact literal.colon_mem
  | onInterface literal number => exact List.mem_append_left _ literal.colon_mem

/-- A literal of an IPv6 address does not start with a bracket. -/
theorem ScopedLiteral.head?_ne {text : List Char} {ip : IPv6} {scope : UInt32}
    (literal : ScopedLiteral text ip scope) : text.head? ≠ some '[' := by
  have other {text : List Char} (literal : IPv6.Literal text ip) : text.head? ≠ some '[' :=
    fun first => absurd (literal.isGroupMark (List.mem_of_head? first)) (by decide)
  cases literal with
  | plain literal => exact other literal
  | onInterface literal number =>
    rw [List.head?_append_of_ne_nil _ (List.ne_nil_of_mem literal.colon_mem)]
    exact other literal

/-- A port is read behind a colon, from digits that spell it. -/
theorem readPort_eq_some_iff {text rest : List Char} {port : UInt16} :
    readPort text = some (port, rest) ↔
      ∃ digits value, text = ':' :: digits ++ rest ∧ NumberForm.port.Spells digits value ∧
        NumberForm.port.Ends rest ∧ port = UInt16.ofNat value := by
  simp only [readPort, Option.bind_eq_bind, Option.bind_eq_some_iff, Prod.exists,
    readChar_eq_some_iff, readNumber_eq_some_iff, Option.some.injEq, Prod.mk.injEq]
  constructor
  · rintro ⟨_, _, rfl, value, _, ⟨digits, rfl, spells, ends⟩, rfl, rfl⟩
    exact ⟨digits, value, rfl, spells, ends, rfl⟩
  · rintro ⟨digits, value, rfl, spells, ends, rfl⟩
    exact ⟨(), _, rfl, value, rest, ⟨digits, rfl, spells, ends⟩, rfl, rfl⟩

/-- A port that ends a text. -/
theorem readPort_whole {digits : List Char} {value : Nat}
    (port : NumberForm.port.Spells digits value) :
    readPort (':' :: digits) = some (UInt16.ofNat value, []) :=
  readPort_eq_some_iff.mpr ⟨digits, value, (List.append_nil _).symm, port, nofun, rfl⟩

/-- What is read of an interface behind a literal belongs to the literal. -/
theorem scopedLiteral_of_readScope {front : List Char} {ip : IPv6} (literal : IPv6.Literal front ip)
    (text : List Char) :
    ∃ interface, text = interface ++ (readScope text).2 ∧
      ScopedLiteral (front ++ interface) ip (readScope text).1 := by
  simp only [readScope, Option.bind_eq_bind]
  split
  next value after number =>
    obtain ⟨⟨_, _⟩, percent, number⟩ := Option.bind_eq_some_iff.mp number
    obtain ⟨digits, rfl, spells, -⟩ := readNumber_eq_some_iff.mp number
    exact ⟨'%' :: digits, readChar_eq_some_iff.mp percent, .onInterface literal spells⟩
  next =>
    refine ⟨[], rfl, ?_⟩
    rw [List.append_nil]
    exact .plain literal

/-- A literal before a closing bracket is read as far as the bracket. -/
theorem ScopedLiteral.read_append {text : List Char} {ip : IPv6} {scope : UInt32}
    (literal : ScopedLiteral text ip scope) (rest : List Char) :
    ∃ after, IPv6.read (text ++ ']' :: rest) = some (ip, after) ∧
      readScope after = (scope, ']' :: rest) := by
  cases literal with
  | plain literal => exact ⟨_, IPv6.read_append literal (.bracket rest), rfl⟩
  | @onInterface text digits _ value literal number =>
    have ends : NumberForm.scope.Ends (']' :: rest) := by
      rintro _ ⟨⟩
      rfl
    have read : readNumber .scope (digits ++ ']' :: rest) = some (value, ']' :: rest) :=
      readNumber_eq_some_iff.mpr ⟨digits, rfl, number, ends⟩
    refine ⟨'%' :: (digits ++ ']' :: rest), ?_, ?_⟩
    · rw [List.append_assoc]
      exact IPv6.read_append literal (.interface _)
    · simp [readScope, readChar_cons, read]

/-- A whole text is read as an IPv4 socket address if it is the text of the address, a colon and a
port. -/
theorem readV4_whole_iff {text : List Char} {address : SocketAddress} :
    readV4 text = some (address, []) ↔
      ∃ ip digits value, text = ip.text ++ ':' :: digits ∧ NumberForm.port.Spells digits value ∧
        address = .v4 ip (UInt16.ofNat value) := by
  simp only [readV4, Option.bind_eq_bind, Option.bind_eq_some_iff, Prod.exists,
    IPv4.read_eq_some_iff, readPort_eq_some_iff, Option.some.injEq, Prod.mk.injEq]
  constructor
  · rintro ⟨ip, _, ⟨rfl, -⟩, _, _, ⟨digits, value, rfl, spells, -, rfl⟩, rfl, rfl⟩
    exact ⟨ip, digits, value, by rw [List.append_nil], spells, rfl⟩
  · rintro ⟨ip, digits, value, rfl, spells, rfl⟩
    refine ⟨ip, _, ⟨rfl, ?_⟩, _, [],
      ⟨digits, value, (List.append_nil _).symm, spells, nofun, rfl⟩, rfl, rfl⟩
    rintro _ ⟨⟩
    rfl

/-- A whole text is read as an IPv6 socket address if it is a literal in brackets, a colon and a
port. -/
theorem readV6_whole_iff {text : List Char} {address : SocketAddress} :
    readV6 text = some (address, []) ↔
      ∃ literal ip scope digits value, text = '[' :: literal ++ ']' :: ':' :: digits ∧
        ScopedLiteral literal ip scope ∧ NumberForm.port.Spells digits value ∧
        address = .v6 ip scope (UInt16.ofNat value) := by
  constructor
  · intro taken
    simp only [readV6, Option.bind_eq_bind, Option.bind_eq_some_iff, Prod.exists,
      readChar_eq_some_iff, readPort_eq_some_iff, Option.some.injEq, Prod.mk.injEq] at taken
    obtain ⟨_, _, rfl, ip, after, read, _, _, bracket, _, _, ⟨digits, value, rfl, spells, -, rfl⟩,
      rfl, rfl⟩ := taken
    obtain ⟨front, rfl, literal⟩ := IPv6.exists_literal_of_read read
    obtain ⟨interface, split, within⟩ := scopedLiteral_of_readScope literal after
    refine ⟨_, ip, _, digits, value, ?_, within, spells, rfl⟩
    rw [bracket] at split
    rw [split]
    simp only [List.append_assoc, List.cons_append, List.append_nil]
  · rintro ⟨literal, ip, scope, digits, value, rfl, within, spells, rfl⟩
    obtain ⟨after, read, scopeRead⟩ := within.read_append (':' :: digits)
    simp [readV6, readChar_cons, read, scopeRead, readPort_whole spells]

/-- An opening bracket does not start an IPv4 address. -/
theorem readV4_bracket (rest : List Char) : readV4 ('[' :: rest) = none := by
  have ends : NumberForm.octet.Ends ('[' :: rest) := by
    rintro _ ⟨⟩
    rfl
  rw [readV4, IPv4.read_eq_none ends]
  rfl

/-- The socket address that is read from a text is the one that it spells. -/
theorem ofText?_eq_some_iff {text : List Char} {address : SocketAddress} :
    ofText? text = some address ↔ Spells text address := by
  have whole : ofText? text = some address ↔
      (readV4 text).orElse (fun _ => readV6 text) = some (address, []) := by
    unfold ofText?
    split
    next found => rw [found, Option.some.injEq, Option.some.injEq, Prod.mk.injEq, and_iff_left rfl]
    next other =>
      refine iff_of_false nofun fun found => ?_
      exact other address found
  rw [whole]
  constructor
  · intro found
    cases first : readV4 text with
    | some read =>
      rw [first] at found
      cases found
      obtain ⟨ip, digits, value, rfl, spells, rfl⟩ := readV4_whole_iff.mp first
      exact .v4 ip spells
    | none =>
      rw [first] at found
      obtain ⟨literal, ip, scope, digits, value, rfl, within, spells, rfl⟩ :=
        readV6_whole_iff.mp found
      exact .v6 within spells
  · intro spells
    cases spells with
    | v4 ip port =>
      rw [readV4_whole_iff.mpr ⟨ip, _, _, rfl, port, rfl⟩]
      rfl
    | @v6 text digits ip scope value literal port =>
      rw [List.cons_append, readV4_bracket]
      exact readV6_whole_iff.mpr ⟨_, _, _, _, _, rfl, literal, port, rfl⟩

end SocketAddress

/-! ## Address and port -/

open SocketAddress (ScopedLiteral)

/-- The ways to write an address to which a port is given: an IPv4 literal, or an IPv6 literal with
or without brackets, within which the number of an interface may follow it. -/
inductive AddressForm (port : UInt16) : List Char → SocketAddress → Prop where
  | v4 (ip : IPv4) : AddressForm port ip.text (.v4 ip port)
  | v6 {text : List Char} {ip : IPv6} {scope : UInt32} (literal : ScopedLiteral text ip scope) :
    AddressForm port text (.v6 ip scope port)
  | bracketed {text : List Char} {ip : IPv6} {scope : UInt32}
    (literal : ScopedLiteral text ip scope) :
    AddressForm port ('[' :: text ++ [']']) (.v6 ip scope port)

/-- An endpoint is an address, in brackets if it has a colon and no bracket in front, with the port
behind it. -/
theorem toList_endpoint (address : String) (port : UInt16) :
    (endpoint address port).toList =
      if ':' ∈ address.toList ∧ address.toList.head? ≠ some '[' then
        '[' :: address.toList ++ ']' :: ':' :: decimal port.toNat
      else address.toList ++ ':' :: decimal port.toNat := by
  have number : (toString port.toNat).toList = decimal port.toNat := Nat.toList_repr
  simp only [endpoint, Bool.and_eq_true, List.contains_iff_mem, bne_iff_ne]
  split
  · simp only [String.toList_append, number, List.append_assoc]
    rfl
  · simp only [String.toList_append, number, List.append_assoc]
    rfl

/-- The digits of a port have no colon. -/
theorem colon_not_mem_of_spells {digits : List Char} {value : Nat}
    (spells : NumberForm.port.Spells digits value) : ':' ∉ digits :=
  fun member => nomatch spells.digit ':' member

/-- Texts are the same up to their last colon and behind it. -/
theorem eq_of_append_colon {front other digits numbers : List Char} (plain : ':' ∉ digits)
    (also : ':' ∉ numbers) (same : front ++ ':' :: digits = other ++ ':' :: numbers) :
    front = other ∧ digits = numbers := by
  obtain ⟨more, rfl, rest⟩ | ⟨more, rfl, rest⟩ := List.append_eq_append_iff.mp same
  · cases more with
    | nil => exact ⟨(List.append_nil _).symm, (List.cons.inj rest).2⟩
    | cons c others =>
      obtain ⟨-, rfl⟩ := List.cons.inj rest
      exact absurd (List.mem_append_right _ List.mem_cons_self) plain
  · cases more with
    | nil => exact ⟨List.append_nil _, (List.cons.inj rest).2.symm⟩
    | cons c others =>
      obtain ⟨-, rfl⟩ := List.cons.inj rest
      exact absurd (List.mem_append_right _ List.mem_cons_self) also

/-- A number is spelled by the digits that are written for it, so a port that is read behind the
last colon is the one that was written there. -/
theorem spells_before_port {front digits : List Char} {port : UInt16} {value : Nat}
    {text : List Char} (spells : NumberForm.port.Spells digits value)
    (same : text ++ ':' :: decimal port.toNat = front ++ ':' :: digits) :
    text = front ∧ UInt16.ofNat value = port := by
  obtain ⟨rfl, rfl⟩ := eq_of_append_colon (colon_not_mem_of_spells (port_spells_decimal port))
    (colon_not_mem_of_spells spells) same
  refine ⟨rfl, ?_⟩
  rw [← spells.value_eq, NumberForm.port, ofDigits_decimal, UInt16.ofNat_toNat]

/-- The text of an IPv4 address does not start with a bracket. -/
theorem head?_octets_ne (ip : IPv4) (rest : List Char) : (ip.text ++ rest).head? ≠ some '[' := by
  intro first
  have nonempty : ip.text ≠ [] := List.append_ne_nil_of_right_ne_nil _ (List.cons_ne_nil _ _)
  rw [List.head?_append_of_ne_nil _ nonempty] at first
  exact absurd (IPv6.isGroupMark_of_mem_octets (List.mem_of_head? first)) (by decide)

/-- The text of an IPv4 address has no colon. -/
theorem colon_not_mem_octets (ip : IPv4) : ':' ∉ ip.text := by
  have other {n : Nat} : ':' ∉ decimal n := fun member => nomatch digit_of_mem_decimal member
  simp [IPv4.text, other]

/-- An endpoint spells a socket address if the address is written in one of its forms, and only
then. -/
theorem ofString?_endpoint_eq_some_iff {address : String} {port : UInt16} {socket : SocketAddress} :
    SocketAddress.ofString? (endpoint address port) = some socket ↔
      AddressForm port address.toList socket := by
  rw [SocketAddress.ofString?, SocketAddress.ofText?_eq_some_iff, toList_endpoint]
  generalize address.toList = text
  constructor
  · intro spells
    split at spells
    next bare =>
      -- The end of the text is the port, so what stands in front of it is a literal in the brackets
      -- that were put round it.
      generalize whole : '[' :: text ++ ']' :: ':' :: decimal port.toNat = endpoint at spells
      cases spells with
      | v4 ip number => exact absurd (congrArg List.head? whole).symm (head?_octets_ne ip _)
      | @v6 inner _ _ _ _ literal number =>
        rw [List.append_cons, List.append_cons ('[' :: inner)] at whole
        obtain ⟨same, rfl⟩ := spells_before_port number whole
        obtain ⟨-, same⟩ := List.cons.inj same
        rw [List.append_cancel_right same]
        exact .v6 literal
    next =>
      -- Without brackets put round it the text is an address already, or has its own brackets.
      generalize whole : text ++ ':' :: decimal port.toNat = endpoint at spells
      cases spells with
      | v4 ip number =>
        obtain ⟨rfl, rfl⟩ := spells_before_port number whole
        exact .v4 ip
      | @v6 inner _ _ _ _ literal number =>
        rw [List.append_cons ('[' :: inner)] at whole
        obtain ⟨rfl, rfl⟩ := spells_before_port number whole
        exact .bracketed literal
  · intro form
    have number := port_spells_decimal port
    cases form with
    | v4 ip =>
      rw [if_neg fun looks => colon_not_mem_octets ip looks.1]
      simpa only [UInt16.ofNat_toNat] using SocketAddress.Spells.v4 ip number
    | v6 literal =>
      rw [if_pos ⟨literal.colon_mem, literal.head?_ne⟩]
      simpa only [UInt16.ofNat_toNat] using SocketAddress.Spells.v6 literal number
    | bracketed literal =>
      rw [if_neg fun looks => looks.2 rfl, List.append_assoc, List.singleton_append]
      simpa only [UInt16.ofNat_toNat] using SocketAddress.Spells.v6 literal number

/-- Names, addresses that have a port already, single and doubled brackets, blanks and names of
interfaces. -/
example : ["dns.example", "9.9.9.9:53", "[::1", "::1]", "[[::1]]", " ::1", "::1%eth0"].all
    fun address => (SocketAddress.ofString? (endpoint address 53)).isNone := by
  decide +kernel

end Net

end DnsForwarder
