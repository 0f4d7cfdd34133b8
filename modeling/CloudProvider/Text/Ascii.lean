/-!
# ASCII letters

- `sameLetters`: equality of texts for which the case of ASCII letters does not count.
-/

namespace CloudProvider.Text
set_option autoImplicit false

/-- The lower case of an ASCII letter; other characters stay. -/
def lowerAscii (s : String) : List Char :=
  s.toList.map Char.toLower

/-- The texts differ at most in the case of ASCII letters. -/
def sameLetters (s t : String) : Bool :=
  lowerAscii s = lowerAscii t

end CloudProvider.Text
