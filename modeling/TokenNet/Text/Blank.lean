namespace TokenNet
namespace Text

/-!
# White space

The characters that separate fields and that are cut off at both ends of a
line are the twenty-five white space characters of the standard, among them
the no-break and the ideographic space.
-/

/-- Closed ranges of the white space code points. -/
def blankRanges : List (Nat × Nat) :=
  [(0x9, 0xD), (0x20, 0x20), (0x85, 0x85), (0xA0, 0xA0), (0x1680, 0x1680),
    (0x2000, 0x200A), (0x2028, 0x2029), (0x202F, 0x202F), (0x205F, 0x205F),
    (0x3000, 0x3000)]

/-- Whether a character is white space. -/
def isBlank (c : Char) : Bool :=
  blankRanges.any fun range => range.1 ≤ c.toNat && c.toNat ≤ range.2

end Text
end TokenNet
