/-! The characters that YAML treats apart: line ends, separators and what a text may hold. -/

namespace Flowchart

namespace Yaml

/-- Characters that end a line in a text that is written. -/
def isBreak (c : Char) : Bool := c = '\n' || c = '\x85' || c = '\u2028' || c = '\u2029'

/-- Characters that end a line in a text that is read. -/
def isLineEnd (c : Char) : Bool := c = '\r' || isBreak c

/-- Line ends and the null character, which stands for the end of the text. -/
def endsLine (c : Char) : Bool := c = '\x00' || isLineEnd c

/-- Line ends, the end of the text and the blank. -/
def isGap (c : Char) : Bool := c = ' ' || endsLine c

/-- Characters that separate: blanks, tabs, line ends and the end of the text. -/
def isSeparator (c : Char) : Bool := c = '\t' || isGap c

/-- The characters that a text may hold. -/
def isAllowed (c : Char) : Bool :=
  let code := c.toNat
  code = 0x09 || code = 0x0A || code = 0x0D || (0x20 ≤ code && code ≤ 0x7E) || code = 0x85 ||
    (0xA0 ≤ code && code ≤ 0xD7FF) || (0xE000 ≤ code && code ≤ 0xFFFD) ||
    (0x10000 ≤ code && code ≤ 0x10FFFF)

/-- Letters, digits, the minus sign and the underscore. -/
def isWordChar (c : Char) : Bool := c.isAlphanum || c = '-' || c = '_'

end Yaml

end Flowchart
