/-! Blank characters and trimming.
Two classes are in use: the blanks of ordinary text, which also hold the four information
separators, and the white space around a number, which does not. -/
namespace TableQuery.Text

/-- White space around a number: the characters with the property `White_Space`. -/
def isWhite (c : Char) : Bool :=
  let n := c.toNat
  (9 ≤ n && n ≤ 13) || n == 0x20 || n == 0x85 || n == 0xA0 || n == 0x1680 ||
    (0x2000 ≤ n && n ≤ 0x200A) || n == 0x2028 || n == 0x2029 || n == 0x202F || n == 0x205F ||
    n == 0x3000

/-- Blanks of ordinary text: `isWhite` and the information separators U+001C to U+001F. -/
def isBlank (c : Char) : Bool :=
  isWhite c || (0x1C ≤ c.toNat && c.toNat ≤ 0x1F)

theorem blankOfWhite {c : Char} (h : isWhite c = true) : isBlank c = true := by
  simp [isBlank, h]

def trimWhere (p : Char → Bool) (cs : List Char) : List Char :=
  ((cs.dropWhile p).reverse.dropWhile p).reverse

def trim (cs : List Char) : List Char := trimWhere isBlank cs

def trimmed (s : String) : String := String.ofList (trim s.toList)

def blank (s : String) : Bool := s.toList.all isBlank

def lower (s : String) : String := String.ofList (s.toList.map Char.toLower)

end TableQuery.Text
