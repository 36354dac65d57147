/-
# White space and trimming

Configuration values, import paths and printed reports are trimmed of the characters that have the
Unicode property `White_Space`: the ASCII controls `U+0009`–`U+000D`, the space, `U+0085`,
`U+00A0` and the wider spaces and separators.
-/

namespace RequiredArgs
namespace Text

/-- The characters with the Unicode property `White_Space`. -/
def isBlank (c : Char) : Bool :=
  let n := c.toNat
  (9 ≤ n && n ≤ 13) || n == 0x20 || n == 0x85 || n == 0xA0 || n == 0x1680 ||
    (0x2000 ≤ n && n ≤ 0x200A) || n == 0x2028 || n == 0x2029 || n == 0x202F ||
    n == 0x205F || n == 0x3000

/-- The characters without the longest tail that lies in `p`. -/
def dropTailWhile (p : Char → Bool) (cs : List Char) : List Char :=
  (cs.reverse.dropWhile p).reverse

/-- The characters without the longest head and the longest tail that lie in `p`. -/
def stripWhile (p : Char → Bool) (cs : List Char) : List Char :=
  dropTailWhile p (cs.dropWhile p)

/-- The text without its trailing white space. -/
def trimEnd (s : String) : String := .ofList (dropTailWhile isBlank s.toList)

/-- The text has no character but white space. -/
def allBlank (s : String) : Bool := s.toList.all isBlank

end Text
end RequiredArgs
