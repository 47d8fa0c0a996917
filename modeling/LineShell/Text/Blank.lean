/-
White space: the characters with the Unicode property White_Space, and
the two questions asked about them here, whether a line holds anything
else and what remains of a text without the blanks at its end.

The separators of the word splitter are another, smaller set; see
`LineShell.Words`.
-/

namespace LineShell.Text

/-- A character with the Unicode property White_Space. -/
def isBlank (c : Char) : Bool :=
  let n := c.toNat
  (0x9 ≤ n && n ≤ 0xD) || n == 0x20 || n == 0x85 || n == 0xA0 || n == 0x1680
    || (0x2000 ≤ n && n ≤ 0x200A) || n == 0x2028 || n == 0x2029 || n == 0x202F
    || n == 0x205F || n == 0x3000

/-- A text of white space only; the empty text is one. -/
def allBlank (text : String) : Bool :=
  text.toList.all isBlank

/-- A text without the white space at its end. -/
def trimEnd (text : String) : String :=
  String.ofList (text.toList.reverse.dropWhile isBlank).reverse

end LineShell.Text
