/-!
Byte strings as lists: the UTF-8 bytes of a text, the big-endian length word, hexadecimal text, and
cutting a byte string into segments.
-/

namespace Hostlink

/-- A byte string. -/
abbrev Bytes := List UInt8

namespace Bytes

/-- The UTF-8 bytes of a text. -/
def ofString (s : String) : Bytes :=
  s.toUTF8.data.toList

/-- The text whose UTF-8 bytes these are, if they are well-formed UTF-8. -/
def toString? (bytes : Bytes) : Option String :=
  String.fromUTF8? ⟨bytes.toArray⟩

/-- A number below `2 ^ 32` as four bytes, the most significant first. -/
def ofWord (n : Nat) : Bytes :=
  [UInt8.ofNat (n / 256 / 256 / 256), UInt8.ofNat (n / 256 / 256), UInt8.ofNat (n / 256),
    UInt8.ofNat n]

/-- The number that four bytes stand for, the most significant first. -/
def toWord (a b c d : UInt8) : Nat :=
  ((a.toNat * 256 + b.toNat) * 256 + c.toNat) * 256 + d.toNat

/-- Two lower-case hexadecimal digits for each byte. -/
def toHex (bytes : Bytes) : String :=
  String.ofList (bytes.flatMap fun b => [(b.toNat / 16).digitChar, (b.toNat % 16).digitChar])

/--
Cut a byte string into segments of `size` bytes, the last one being shorter when the length is no
multiple of `size`. A size of zero counts as one.
-/
def segments (size : Nat) : Bytes → List Bytes
  | [] => []
  | b :: rest => (b :: rest.take (size - 1)) :: segments size (rest.drop (size - 1))
termination_by bytes => bytes.length
decreasing_by simp only [List.length_cons, List.length_drop]; omega

end Bytes
end Hostlink
