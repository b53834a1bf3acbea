import DnsForwarder.Net.Address.Printer
import DnsForwarder.Net.Address.Reader
import Mathlib.Data.List.DropRight

/-!
# Numbers in addresses

Which digits spell a number of a form is `DnsForwarder.Net.NumberForm.Spells`. A reader takes all
the digits in front of a text, and a number is read if they spell it
(`DnsForwarder.Net.readNumber_eq_some_iff`). Where a number may not have leading zeros, its digits
are those that are written for it (`DnsForwarder.Net.octet_spells_iff`).
-/

namespace DnsForwarder

namespace Net

open Text (digit?)

/-! ## Digits -/

/-- The value of a decimal digit. -/
theorem digit?_of_decimal {radix : Nat} (large : 10 ≤ radix) {c : Char} (first : 48 ≤ c.toNat)
    (last : c.toNat ≤ 57) : digit? radix c = some (c.toNat - 48) := by
  have small : c.toNat - 48 < radix := by omega
  simp only [digit?, first, last, and_self, if_true, small]

/-- A decimal digit is one of ten characters. -/
theorem decimal_of_digit? {c : Char} {n : Nat} (digit : digit? 10 c = some n) :
    48 ≤ c.toNat ∧ c.toNat ≤ 57 ∧ c.toNat - 48 = n := by
  have small : n < 10 := Text.digit?_lt digit
  simp only [digit?, Option.ite_none_right_eq_some, Option.some.injEq] at digit
  obtain ⟨-, value⟩ := digit
  split at value
  next code => exact ⟨code.1, code.2, value⟩
  next =>
    -- What is no decimal digit has a value from ten on.
    split at value
    · omega
    · split at value <;> omega

/-- A digit is read back from the character that is written for it. -/
theorem digit?_digitChar {n : Nat} (small : n < 10) : digit? 10 n.digitChar = some n := by
  have code : n.digitChar.toNat = 48 + n := Nat.toNat_digitChar_of_lt_ten small
  rw [digit?_of_decimal (Nat.le_refl 10) (by omega) (by omega), code, Nat.add_sub_cancel_left]

/-- The character that is written for a digit is the one that it was read from. -/
theorem digitChar_of_digit? {c : Char} {n : Nat} (digit : digit? 10 c = some n) :
    n.digitChar = c := by
  obtain ⟨first, last, value⟩ := decimal_of_digit? digit
  refine Char.toNat_inj.mp ?_
  rw [Nat.toNat_digitChar_of_lt_ten (by omega)]
  omega

/-- A decimal digit is a hexadecimal one. -/
theorem hexadecimal_of_decimal {c : Char} (digit : (digit? 10 c).isSome) :
    (digit? 16 c).isSome := by
  obtain ⟨n, is⟩ := Option.isSome_iff_exists.mp digit
  obtain ⟨first, last, -⟩ := decimal_of_digit? is
  rw [digit?_of_decimal (by decide) first last]
  rfl

/-- The last digit is added to ten times the others, or whatever the radix is. -/
theorem ofDigits_concat (radix : Nat) (digits : List Char) (c : Char) :
    ofDigits radix (digits ++ [c]) = ofDigits radix digits * radix + (digit? radix c).getD 0 :=
  List.foldl_append

/-- A number is read back from the digits that are written for it. -/
theorem ofDigits_decimal (n : Nat) : ofDigits 10 (decimal n) = n := by
  induction n using Nat.strong_induction_on with
  | h n ih =>
    rw [decimal, Nat.toDigits_eq_if (by decide)]
    split
    next small =>
      change 0 * 10 + (digit? 10 n.digitChar).getD 0 = n
      rw [digit?_digitChar small, Option.getD_some, Nat.zero_mul, Nat.zero_add]
    next large =>
      have before : ofDigits 10 (Nat.toDigits 10 (n / 10)) = n / 10 := ih (n / 10) (by omega)
      rw [ofDigits_concat, before, digit?_digitChar (Nat.mod_lt n (by decide)), Option.getD_some]
      omega

/-- Digits without a leading zero are those that are written for their number. -/
theorem decimal_ofDigits {digits : List Char} (nonempty : digits ≠ [])
    (digit : ∀ c ∈ digits, (digit? 10 c).isSome)
    (plain : digits.head? = some '0' → digits.length ≤ 1) :
    decimal (ofDigits 10 digits) = digits := by
  induction digits using List.reverseRecOn with
  | nil => exact absurd rfl nonempty
  | append_singleton front c ih =>
    obtain ⟨last, isLast⟩ :=
      Option.isSome_iff_exists.mp (digit c (List.mem_append_right _ List.mem_cons_self))
    have small : last < 10 := Text.digit?_lt isLast
    have written : Nat.toDigits 10 last = [c] := by
      rw [Nat.toDigits_of_lt_base small, digitChar_of_digit? isLast]
    rw [ofDigits_concat, isLast, Option.getD_some, decimal]
    cases front with
    | nil =>
      change Nat.toDigits 10 (0 * 10 + last) = [c]
      rw [Nat.zero_mul, Nat.zero_add, written]
    | cons first others =>
      have proper : first ≠ '0' := by
        rintro rfl
        have short : others.length + 1 + 1 ≤ 1 := by simpa using plain rfl
        omega
      have kept : decimal (ofDigits 10 (first :: others)) = first :: others := by
        refine ih (List.cons_ne_nil _ _)
          (fun d member => digit d (List.mem_append_left _ member)) ?_
        exact fun zero => absurd (Option.some.inj zero) proper
      -- The number before the last digit is not zero, as zero is written by a zero.
      have positive : 0 < ofDigits 10 (first :: others) := by
        refine Nat.pos_of_ne_zero fun zero => proper ?_
        rw [zero] at kept
        exact (List.cons.inj kept).1.symm
      rw [Nat.mul_comm, ← Nat.toDigits_append_toDigits (by decide) positive small, written]
      exact congrArg (· ++ [c]) kept

/-- A number is written with decimal digits. -/
theorem digit_of_mem_decimal {n : Nat} {c : Char} (member : c ∈ decimal n) :
    (digit? 10 c).isSome := by
  have digit : c.isDigit := Nat.isDigit_of_mem_toDigits (by decide) (by decide) member
  simp only [Char.isDigit, Bool.and_eq_true, decide_eq_true_eq, ge_iff_le, UInt32.le_iff_toNat_le]
    at digit
  have code : 48 ≤ c.toNat ∧ c.toNat ≤ 57 := digit
  rw [digit?_of_decimal (Nat.le_refl 10) code.1 code.2]
  rfl

/-- The digits that are written for a number have a leading zero only for zero itself. -/
theorem decimal_plain {n : Nat} (zero : (decimal n).head? = some '0') : (decimal n).length ≤ 1 := by
  induction n using Nat.strong_induction_on with
  | h n ih =>
    rw [decimal, Nat.toDigits_eq_if (by decide)] at zero ⊢
    split
    next small => exact Nat.le_refl 1
    next large =>
      rw [if_neg large, List.head?_append_of_ne_nil _ Nat.toDigits_ne_nil] at zero
      have short : (decimal (n / 10)).length ≤ 1 := ih (n / 10) (by omega) zero
      have single : n / 10 < 10 := (Nat.length_toDigits_le_iff (by decide) (by decide)).mp short
      rw [Nat.toDigits_of_lt_base single, List.head?_cons, Option.some.injEq, Nat.digitChar_eq_zero]
        at zero
      omega

/-! ## Forms -/

namespace NumberForm

/-- Digits spell a number: there are some, not too many and no leading zeros where there may be
none, and the number is not too large. -/
structure Spells (form : NumberForm) (digits : List Char) (value : Nat) : Prop where
  nonempty : digits ≠ []
  digit : ∀ c ∈ digits, (digit? form.radix c).isSome
  length_le : ∀ most ∈ form.maxDigits, digits.length ≤ most
  plain : form.leadingZeros = false → digits.head? = some '0' → digits.length ≤ 1
  value_eq : ofDigits form.radix digits = value
  lt_bound : value < form.bound

/-- No digit comes next. -/
def Ends (form : NumberForm) (rest : List Char) : Prop :=
  ∀ c ∈ rest.head?, digit? form.radix c = none

end NumberForm

/-- All the digits in front are read, and they are a number if they spell one. -/
theorem readNumber_eq_some_iff {form : NumberForm} {text rest : List Char} {value : Nat} :
    readNumber form text = some (value, rest) ↔
      ∃ digits, text = digits ++ rest ∧ form.Spells digits value ∧ form.Ends rest := by
  constructor
  · intro read
    simp only [readNumber, Option.ite_none_left_eq_some, Option.some.injEq, Prod.mk.injEq] at read
    obtain ⟨nonempty, short, plain, bound, rfl, rfl⟩ := read
    refine ⟨_, List.takeWhile_append_dropWhile.symm,
      ⟨?_, ?_, ?_, ?_, rfl, Nat.lt_of_not_le bound⟩, ?_⟩
    · exact fun none => nonempty (List.isEmpty_iff.mpr none)
    · exact fun c member => (List.mem_takeWhile_imp member :)
    · intro most is
      rw [Option.mem_def.mp is, Option.any_some, decide_eq_true_eq] at short
      exact Nat.le_of_not_lt short
    · intro strict zero
      rw [strict, zero] at plain
      simpa using plain
    · intro c first
      have other := List.head?_dropWhile_not (fun c => (digit? form.radix c).isSome) text
      rw [Option.mem_def.mp first] at other
      simpa using other
  · rintro ⟨digits, rfl, ⟨nonempty, digit, length_le, plain, rfl, bound⟩, ends⟩
    -- Where the digits end no other follows, so that they are all that is taken.
    have stopped : rest.takeWhile (fun c => (digit? form.radix c).isSome) = [] ∧
        rest.dropWhile (fun c => (digit? form.radix c).isSome) = rest := by
      cases rest with
      | nil => exact ⟨rfl, rfl⟩
      | cons c others => simp [ends c rfl]
    have taken : (digits ++ rest).takeWhile (fun c => (digit? form.radix c).isSome) = digits := by
      rw [List.takeWhile_append_of_pos digit, stopped.1, List.append_nil]
    have dropped : (digits ++ rest).dropWhile (fun c => (digit? form.radix c).isSome) = rest := by
      rw [List.dropWhile_append_of_pos digit, stopped.2]
    have few : form.maxDigits.any (· < digits.length) = false := by
      rw [Option.any_eq_false]
      intro most is
      simpa using length_le most is
    have unpadded :
        (!form.leadingZeros && digits.head? == some '0' && decide (1 < digits.length)) = false := by
      cases strict : form.leadingZeros with
      | true => rfl
      | false =>
        by_cases zero : digits.head? = some '0'
        · simpa [zero] using plain strict zero
        · simp [zero]
    simp only [readNumber, taken, dropped, few, unpadded]
    rw [if_neg (by simpa using nonempty), if_neg Bool.false_ne_true, if_neg Bool.false_ne_true,
      if_neg (Nat.not_le_of_lt bound)]

/-- Where no digit comes next, no number is read. -/
theorem readNumber_eq_none {form : NumberForm} {text : List Char} (ends : form.Ends text) :
    readNumber form text = none := by
  refine Option.eq_none_iff_forall_ne_some.mpr fun ⟨value, rest⟩ read => ?_
  obtain ⟨digits, rfl, spells, -⟩ := readNumber_eq_some_iff.mp read
  obtain ⟨c, others, rfl⟩ := List.exists_cons_of_ne_nil spells.nonempty
  have digit := spells.digit c List.mem_cons_self
  rw [ends c rfl] at digit
  exact nomatch digit

/-- The digits of an octet are those that are written for it. -/
theorem octet_spells_iff {digits : List Char} {value : Nat} :
    NumberForm.octet.Spells digits value ↔ value < UInt8.size ∧ digits = decimal value := by
  constructor
  · intro spells
    refine ⟨spells.lt_bound, ?_⟩
    rw [← spells.value_eq]
    exact (decimal_ofDigits spells.nonempty spells.digit (spells.plain rfl)).symm
  · rintro ⟨bound, rfl⟩
    refine ⟨Nat.toDigits_ne_nil, fun c => digit_of_mem_decimal, ?_, fun _ => decimal_plain,
      ofDigits_decimal value, bound⟩
    rintro _ ⟨⟩
    exact (Nat.length_toDigits_le_iff (by decide) (by decide)).mpr (Nat.lt_trans bound (by decide))

/-- A port is spelled by the digits that are written for it. -/
theorem port_spells_decimal (port : UInt16) :
    NumberForm.port.Spells (decimal port.toNat) port.toNat where
  nonempty := Nat.toDigits_ne_nil
  digit := fun _ => digit_of_mem_decimal
  length_le := nofun
  plain := nofun
  value_eq := ofDigits_decimal _
  lt_bound := port.toNat_lt_size

end Net

end DnsForwarder
