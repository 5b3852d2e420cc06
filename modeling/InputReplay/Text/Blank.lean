/-! Blank characters: the Unicode white space and the four information separators. -/

namespace InputReplay

def isBlank (c : Char) : Bool :=
  let n := c.toNat
  (9 ≤ n && n ≤ 13) || (28 ≤ n && n ≤ 32) || n == 0x85 || n == 0xa0 || n == 0x1680 ||
    (0x2000 ≤ n && n ≤ 0x200a) || n == 0x2028 || n == 0x2029 || n == 0x202f || n == 0x205f ||
    n == 0x3000

/-- Takes what satisfies `p` off the end of a text. -/
def dropEnd (p : Char → Bool) (text : List Char) : List Char :=
  (text.reverse.dropWhile p).reverse

/-- Takes blanks off both ends of a text. -/
def strip (text : List Char) : List Char := dropEnd isBlank (text.dropWhile isBlank)

def stripText (text : String) : String := String.ofList (strip text.toList)

end InputReplay
