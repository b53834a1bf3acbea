import DnsForwarder.Text.Pattern.Reader

/-!
# What rules ask of values

A rule can ask for a value of a field. What it asks for is a number or a regular expression; the
words for truth values are regular expressions as well.
-/

namespace DnsForwarder.ValuePattern

/-- What follows a sign, if there is one. -/
def unsigned : List Char → List Char
  | '+' :: rest => rest
  | '-' :: rest => rest
  | text => text

/-- Whether a text is nothing or an exponent. -/
def isExponent : List Char → Bool
  | [] => true
  | letter :: rest => letter == 'e' && !(unsigned rest).isEmpty && (unsigned rest).all Char.isDigit

/-- Whether a text in lower case is a number without a sign. Digits may be missing on one side of
the point. -/
def isUnsignedNumber (text : List Char) : Bool :=
  let whole := text.takeWhile Char.isDigit
  let (fraction, rest) :=
    match text.drop whole.length with
    | '.' :: rest => (rest.takeWhile Char.isDigit, rest.dropWhile Char.isDigit)
    | rest => ([], rest)
  !(whole ++ fraction).isEmpty && isExponent rest

/-- The special numbers. -/
def specialNumbers : List String := ["inf", "infinity", "nan"]

/-- Whether a text is a number; the case of its letters does not matter. -/
def isNumber (text : String) : Bool :=
  let rest := unsigned (text.toList.map Char.toLower)
  specialNumbers.contains (String.ofList rest) || isUnsignedNumber rest

/-- Whether a rule can ask for a value. -/
def isValid (text : String) : Bool :=
  isNumber text || (Text.Pattern.ofText? text).any Text.Pattern.isCompilable

end DnsForwarder.ValuePattern
