import LiveSchema.Text.Ranges

/-! White space: the characters with a separating or breaking direction, and the
space separators. -/

namespace LiveSchema

def blankRanges : CodeRanges := ⟨#[
  (0x9, 0xd), (0x1c, 0x20), (0x85, 0x85), (0xa0, 0xa0), (0x1680, 0x1680), (0x2000, 0x200a),
  (0x2028, 0x2029), (0x202f, 0x202f), (0x205f, 0x205f), (0x3000, 0x3000)]⟩

def isBlank (char : Char) : Bool := blankRanges.contains char.toNat

def trimBlank (text : String) : String :=
  let front := text.toList.dropWhile isBlank
  String.ofList (front.reverse.dropWhile isBlank).reverse

end LiveSchema
