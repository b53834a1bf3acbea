import DnsForwarder.Text.Digit
import DnsForwarder.Toml.Value

/-!
# Numbers and dates

The values that are written without quotes or brackets: integers in four radices, numbers with a
fraction or an exponent, dates and times. An underscore may stand between two digits.
-/

namespace DnsForwarder.Toml.Scalar

/-- Digits with single underscores between them, without the underscores. -/
def digits? (radix : Nat) : List Char → Option (List Nat)
  | [] => none
  | [c] => (Text.digit? radix c).map ([·])
  | c :: '_' :: rest => do some ((← Text.digit? radix c) :: (← digits? radix rest))
  | c :: rest => do some ((← Text.digit? radix c) :: (← digits? radix rest))

/-- The number that digits spell. -/
def ofDigits (radix : Nat) (digits : List Nat) : Nat :=
  digits.foldl (fun acc digit => acc * radix + digit) 0

/-- A sign and what follows it. -/
def signed : List Char → Bool × List Char
  | '+' :: rest => (false, rest)
  | '-' :: rest => (true, rest)
  | text => (false, text)

/-- The whole part of a decimal number, without its sign. Zeros do not lead it. -/
def wholeDigits? (text : List Char) : Option (List Nat) :=
  (digits? 10 text).filter fun digits => digits.length == 1 || digits.head? != some 0

/-- Integers from here on are too large, and those below its negative half too small. -/
abbrev integerBound : Int := UInt64.size * UInt64.size

/-- An integer. Hexadecimal, octal and binary numbers have no sign. -/
def integer? (text : List Char) : Option Int :=
  let number :=
    match text with
    | '0' :: 'x' :: rest => (digits? 16 rest).map fun digits => (ofDigits 16 digits : Int)
    | '0' :: 'o' :: rest => (digits? 8 rest).map fun digits => (ofDigits 8 digits : Int)
    | '0' :: 'b' :: rest => (digits? 2 rest).map fun digits => (ofDigits 2 digits : Int)
    | _ =>
      let (negative, rest) := signed text
      (wholeDigits? rest).map fun digits =>
        let size := (ofDigits 10 digits : Int)
        if negative then -size else size
  number.filter fun n => -(integerBound / 2) ≤ n && n < integerBound

/-- The text before the first character that satisfies `p`, and that character with what follows. -/
def cut (p : Char → Bool) (text : List Char) : List Char × List Char :=
  (text.takeWhile (!p ·), text.dropWhile (!p ·))

/-- An exponent with its letter; nothing stands for zero. -/
def exponent? : List Char → Option Int
  | [] => some 0
  | letter :: rest =>
    if letter = 'e' ∨ letter = 'E' then
      let (negative, rest) := signed rest
      (digits? 10 rest).map fun digits =>
        let size := (ofDigits 10 digits : Int)
        if negative then -size else size
    else none

/-- Whether a decimal number is too large for a double. -/
def overflows (digits : List Nat) (exponent : Int) : Bool :=
  let significand := ofDigits 10 digits
  let magnitude := (digits.dropWhile (· == 0)).length + exponent
  if significand = 0 ∨ magnitude < 300 then false
  else if 310 < magnitude then true
  else
    let scaled : Nat :=
      if 0 ≤ exponent then significand * Nat.pow 10 exponent.toNat
      else significand / Nat.pow 10 (-exponent).toNat
    Nat.pow 2 1024 - Nat.pow 2 970 ≤ scaled

/-- Whether a text is a number with a fraction, an exponent or both, or one of the special
numbers. -/
def isFloat (text : List Char) : Bool :=
  let (_, rest) := signed text
  if rest = "inf".toList ∨ rest = "nan".toList then true
  else
    let (whole, more) := cut (fun c => c == '.' || c == 'e' || c == 'E') rest
    let (fraction, rest) :=
      match more with
      | '.' :: rest =>
        let (fraction, rest) := cut (fun c => c == 'e' || c == 'E') rest
        (digits? 10 fraction, rest)
      | rest => (some [], rest)
    match wholeDigits? whole, fraction, exponent? rest with
    | some whole, some fraction, some exponent =>
      !more.isEmpty && !overflows (whole ++ fraction) (exponent - fraction.length)
    | _, _, _ => false

/-- A number of a fixed count of digits, and what follows it. -/
def fixed? (count : Nat) (text : List Char) : Option (Nat × List Char) :=
  let digits := text.take count
  if digits.length = count ∧ digits.all Char.isDigit then
    some (ofDigits 10 (digits.map fun c => c.toNat - 0x30), text.drop count)
  else none

/-- What follows a given character. -/
def after? (c : Char) : List Char → Option (List Char)
  | x :: rest => if x = c then some rest else none
  | [] => none

/-- How many days a month has. -/
def daysIn (year month : Nat) : Nat :=
  if month = 2 then
    if year % 4 = 0 ∧ (year % 100 ≠ 0 ∨ year % 400 = 0) then 29 else 28
  else if month = 4 ∨ month = 6 ∨ month = 9 ∨ month = 11 then 30
  else 31

/-- Reads a day of the calendar and gives what follows it. -/
def date? (text : List Char) : Option (List Char) := do
  let (year, rest) ← fixed? 4 text
  let (month, rest) ← fixed? 2 (← after? '-' rest)
  let (day, rest) ← fixed? 2 (← after? '-' rest)
  if 1 ≤ month ∧ month ≤ 12 ∧ 1 ≤ day ∧ day ≤ daysIn year month then some rest else none

/-- Passes over parts of a second, if they are given. -/
def fraction? : List Char → Option (List Char)
  | '.' :: rest =>
    let digits := rest.takeWhile Char.isDigit
    if digits.isEmpty then none else some (rest.drop digits.length)
  | text => some text

/-- Reads a time of day and gives what follows it. Seconds and parts of a second may be left out. -/
def time? (text : List Char) : Option (List Char) := do
  let (hour, rest) ← fixed? 2 text
  let (minute, rest) ← fixed? 2 (← after? ':' rest)
  if 23 < hour ∨ 59 < minute then none
  else
    match rest with
    | ':' :: rest =>
      let (second, rest) ← fixed? 2 rest
      if 60 < second then none else fraction? rest
    | rest => some rest

/-- Whether a text is nothing or a distance from universal time. -/
def isOffset : List Char → Bool
  | [] => true
  | ['Z'] => true
  | ['z'] => true
  | sign :: rest =>
    (sign == '+' || sign == '-') &&
      (do
        let (hour, rest) ← fixed? 2 rest
        let (minute, rest) ← fixed? 2 (← after? ':' rest)
        some (hour ≤ 23 && minute ≤ 59 && rest.isEmpty)) == some true

/-- Whether a text is a date, a time or both. -/
def isDateTime (text : List Char) : Bool :=
  match date? text with
  | some [] => true
  | some (separator :: rest) =>
    (separator == 'T' || separator == 't' || separator == ' ') && (time? rest).any isOffset
  | none => time? text == some []

/-- The value of an unquoted text. -/
def value? (text : List Char) : Option Value :=
  if text = "true".toList then some (.boolean true)
  else if text = "false".toList then some (.boolean false)
  else
    match integer? text with
    | some number => some (.integer number)
    | none =>
      if isFloat text then some (.float (String.ofList text))
      else if isDateTime text then some (.dateTime (String.ofList text))
      else none

end DnsForwarder.Toml.Scalar
