/-!
# White space

The Unicode White_Space property: tab, line feed, vertical tab, form feed and carriage return,
the space, next line (U+0085), no-break space (U+00A0), the Ogham space mark, the spaces from
U+2000 to U+200A, the line and paragraph separators, the narrow no-break space, the medium
mathematical space and the ideographic space. Zero-width characters such as U+200B and U+FEFF
are not white space.
-/

namespace QueryCompiler

namespace Text

/-- Whether a character has the White_Space property. -/
def isWhiteSpace (c : Char) : Bool :=
  let n := c.toNat
  (0x09 ≤ n && n ≤ 0x0D) || n == 0x20 || n == 0x85 || n == 0xA0 || n == 0x1680 ||
    (0x2000 ≤ n && n ≤ 0x200A) || n == 0x2028 || n == 0x2029 || n == 0x202F ||
    n == 0x205F || n == 0x3000

/-- A string without its leading and trailing white space. -/
def trim (s : String) : String :=
  String.ofList ((s.toList.dropWhile isWhiteSpace).reverse.dropWhile isWhiteSpace).reverse

end Text

end QueryCompiler
