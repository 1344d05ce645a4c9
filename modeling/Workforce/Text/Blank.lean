/-!
Blank text: the characters of the Unicode property `White_Space`, and what is
left of a text when they are taken off its ends.
-/

namespace Workforce.Text

/-- The characters with the property `White_Space`: the controls from tab to
carriage return, the space, next line, the no-break space, and the spaces and
separators of the general punctuation and ideographic blocks. -/
def isBlank (c : Char) : Bool :=
  let n := c.toNat
  (0x9 ≤ n && n ≤ 0xD) || n == 0x20 || n == 0x85 || n == 0xA0 || n == 0x1680 ||
    (0x2000 ≤ n && n ≤ 0x200A) || n == 0x2028 || n == 0x2029 || n == 0x202F ||
    n == 0x205F || n == 0x3000

/-- A list of characters without the blanks at its two ends. -/
def trimChars (cs : List Char) : List Char :=
  ((cs.dropWhile isBlank).reverse.dropWhile isBlank).reverse

/-- A text without the blanks at its two ends. -/
def trim (s : String) : String :=
  String.ofList (trimChars s.toList)

/-- Whether a text has no character that is not blank. -/
def allBlank (s : String) : Bool :=
  s.toList.all isBlank

end Workforce.Text
