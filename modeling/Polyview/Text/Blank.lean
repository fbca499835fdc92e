import Polyview.Text.CodeSet

/-!
# Blank characters

Which characters count as blank between words, and texts without the blanks at their ends.
-/

namespace Polyview.Text

/-- Code points with the white-space property. -/
def blankRanges : CodeSet :=
  [(0x9, 0xD), (0x20, 0x20), (0x85, 0x85), (0xA0, 0xA0), (0x1680, 0x1680), (0x2000, 0x200A),
    (0x2028, 0x2029), (0x202F, 0x202F), (0x205F, 0x205F), (0x3000, 0x3000)]

/-- A blank character of any script. -/
def isBlank (c : Char) : Bool := blankRanges.holds c.toNat

/-- A text without the blanks before its first other character. -/
def trimStart (text : List Char) : List Char := text.dropWhile isBlank

/-- A text without the blanks after its last other character. -/
def trimEnd (text : List Char) : List Char := (trimStart text.reverse).reverse

def trim (text : List Char) : List Char := trimEnd (trimStart text)

end Polyview.Text
