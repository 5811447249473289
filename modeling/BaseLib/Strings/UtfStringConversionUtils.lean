/-!
# `IsValidCodepoint` and `IsValidCharacter`

`IsValidCodepoint` accepts the code points up to `0x10FFFF` but the
surrogates `[0xD800, 0xDFFF]`. `IsValidCharacter` also drops the 66
noncharacters: `U+FDD0..U+FDEF`, and the last two code points of each plane,
which it finds with `(code_point & 0xFFFE) != 0xFFFE`, tested only above
`0xFDEF`. `uint32_t` is `BitVec 32`.
-/

namespace BaseLib.Strings

def isValidCodepoint (codePoint : BitVec 32) : Bool :=
  codePoint < 0xD800 || (codePoint ≥ 0xE000 && codePoint ≤ 0x10FFFF)

def isValidCharacter (codePoint : BitVec 32) : Bool :=
  codePoint < 0xD800 || (codePoint ≥ 0xE000 && codePoint < 0xFDD0) ||
    (codePoint > 0xFDEF && codePoint ≤ 0x10FFFF && (codePoint &&& 0xFFFE) != 0xFFFE)

end BaseLib.Strings
