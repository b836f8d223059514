/-!
# White space

* `isBlank` — the characters that count as white space.
* `isBlankText` — a text with nothing else in it.
-/

namespace StandIn.Text

/-- Whether the character has the property `White_Space`. -/
def isBlank (c : Char) : Bool :=
  let n := c.toNat
  (9 ≤ n && n ≤ 13) || n = 0x20 || n = 0x85 || n = 0xA0 || n = 0x1680 ||
    (0x2000 ≤ n && n ≤ 0x200A) || n = 0x2028 || n = 0x2029 || n = 0x202F || n = 0x205F ||
    n = 0x3000

/-- Whether the text has nothing but white space. -/
def isBlankText (s : String) : Bool :=
  s.toList.all isBlank

end StandIn.Text
