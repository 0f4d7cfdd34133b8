import CloudProvider.Text.Range

/-!
# Blank characters

- `isBlank`: the characters with the property White_Space.
- `trimStart`, `trimEnd`, `trim`: a text without its surrounding blanks.
- `isBlankText`: nothing but blanks.
-/

namespace CloudProvider.Text
set_option autoImplicit false

/-- The characters with the property White_Space. -/
def blankRanges : Ranges :=
  [ (0x9, 0xD), (0x20, 0x20), (0x85, 0x85), (0xA0, 0xA0), (0x1680, 0x1680),
    (0x2000, 0x200A), (0x2028, 0x2029), (0x202F, 0x202F), (0x205F, 0x205F), (0x3000, 0x3000) ]

def isBlank (c : Char) : Bool :=
  blankRanges.has c

/-! ## Trimming -/

/-- The characters from the first that is not blank. -/
def trimStart (cs : List Char) : List Char :=
  cs.dropWhile isBlank

/-- The characters up to the last that is not blank. -/
def trimEnd (cs : List Char) : List Char :=
  (cs.reverse.dropWhile isBlank).reverse

def trim (s : String) : String :=
  String.ofList (trimEnd (trimStart s.toList))

/-- Every character of the text is blank. -/
def isBlankText (s : String) : Bool :=
  s.toList.all isBlank

end CloudProvider.Text
