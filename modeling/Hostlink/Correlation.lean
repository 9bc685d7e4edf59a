import Hostlink.Bytes
/-!
Correlations: the texts by which a response names its request. A fresh one is made from random bits,
laid out as an identifier of version 4.
-/

namespace Hostlink.Correlation

/-- The lowest `digits` hexadecimal digits of a number. -/
def hexDigits (digits n : Nat) : List Char :=
  (List.range digits).reverse.map fun (i : Nat) => ((n >>> (4 * i)) % 16).digitChar

/--
The identifier for 122 random bits: 32 hexadecimal digits in five groups, of which the thirteenth is
the version, 4, and the seventeenth carries two bits of the variant.
-/
def ofBits (bits : Nat) : String :=
  let first := hexDigits 8 (bits >>> 90)
  let second := hexDigits 4 (bits >>> 74)
  let third := '4' :: hexDigits 3 (bits >>> 62)
  let fourth := (8 + (bits >>> 60) % 4).digitChar :: hexDigits 3 (bits >>> 48)
  let fifth := hexDigits 12 bits
  String.ofList (first ++ ['-'] ++ second ++ ['-'] ++ third ++ ['-'] ++ fourth ++ ['-'] ++ fifth)

/-- A source of random bits, which goes on from a seed. -/
structure Source where
  state : BitVec 128 := 0
deriving Repr, DecidableEq, Inhabited

/-- A fresh correlation: the upper bits of a linear congruential sequence. -/
def Source.draw (source : Source) : String × Source :=
  let state := source.state * 0x2360ed051fc65da44385df649fccf645 + 0x5851f42d4c957f2d
  (ofBits (state.toNat >>> 6), ⟨state⟩)

end Hostlink.Correlation
