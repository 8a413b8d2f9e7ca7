import ResourceQuery.Pattern.CharSet

namespace ResourceQuery.Pattern

structure ByteRange where
  first : UInt8
  last : UInt8
  deriving DecidableEq, Repr

namespace CharRange

def cutBehind (n : Nat) (r : CharRange) : List CharRange :=
  if r.first ≤ n ∧ n < r.last then [⟨r.first, n⟩, ⟨next n, r.last⟩] else [r]

def cutFirstBlock (size : Nat) (r : CharRange) : List CharRange :=
  let last := r.first / size * size + (size - 1)
  if last < r.last ∧ r.first % size ≠ 0 then [⟨r.first, last⟩, ⟨last + 1, r.last⟩] else [r]

def cutLastBlock (size : Nat) (r : CharRange) : List CharRange :=
  let first := r.last / size * size
  if r.first < first ∧ r.last % size ≠ size - 1 then [⟨r.first, first - 1⟩, ⟨first, r.last⟩]
  else [r]

/-- Cuts a range so that each piece lies within a block or is made of whole ones. -/
def cutBlocks (size : Nat) (r : CharRange) : List CharRange :=
  (r.cutFirstBlock size).flatMap (cutLastBlock size)

def gapEnds : List Nat := [0xd7ff, 0x7f, 0x7ff, 0xffff]

def blockSizes : List Nat := [64, 4096, 262144]

def cutAll (cuts : List (CharRange → List CharRange)) (rs : List CharRange) : List CharRange :=
  cuts.foldl (fun rs cut => rs.flatMap cut) rs

def pieces (r : CharRange) : List CharRange :=
  (cutAll (gapEnds.map cutBehind) [r]).flatMap fun r =>
    if r.last ≤ 0x7f then [r] else cutAll (blockSizes.map cutBlocks) [r]

def word (r : CharRange) : List ByteRange :=
  List.zipWith ByteRange.mk (String.utf8EncodeChar (Char.ofNat r.first))
    (String.utf8EncodeChar (Char.ofNat r.last))

end CharRange

def CharSet.words (a : CharSet) : List (List ByteRange) :=
  (a.ranges.flatMap CharRange.pieces).map CharRange.word

end ResourceQuery.Pattern
