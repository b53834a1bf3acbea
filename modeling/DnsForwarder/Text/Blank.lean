/-!
# Blank characters and trimming

The blank characters are those with the Unicode property `White_Space`. Trimming works on character
lists, so that statements about it are statements about lists; `trimBlank` is its form on strings.
-/

namespace DnsForwarder.Text

/-- The characters with the property `White_Space`. -/
def isBlank (c : Char) : Bool :=
  let n := c.toNat
  (0x09 ≤ n && n ≤ 0x0D) || n == 0x20 || n == 0x85 || n == 0xA0 || n == 0x1680 ||
    (0x2000 ≤ n && n ≤ 0x200A) || n == 0x2028 || n == 0x2029 || n == 0x202F || n == 0x205F ||
    n == 0x3000

/-- Removes the longest end of a list whose members all satisfy `p`. -/
def dropRightWhile {α : Type} (p : α → Bool) (l : List α) : List α :=
  (l.reverse.dropWhile p).reverse

/-- Removes the blanks at both ends. -/
def trim (l : List Char) : List Char :=
  dropRightWhile isBlank (l.dropWhile isBlank)

/-- Removes the blanks at both ends of a text. -/
def trimBlank (text : String) : String :=
  String.ofList (trim text.toList)

/-- Nothing but blanks, if anything at all. -/
def isAllBlank (text : String) : Bool :=
  text.toList.all isBlank

theorem dropRightWhile_append_dropped {α : Type} (p : α → Bool) (l : List α) :
    dropRightWhile p l ++ (l.reverse.takeWhile p).reverse = l := by
  rw [dropRightWhile, ← List.reverse_append, List.takeWhile_append_dropWhile, List.reverse_reverse]

end DnsForwarder.Text
