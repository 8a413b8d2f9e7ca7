import ResourceQuery.Text

namespace ResourceQuery.Percent

open Text

def isPlain (c : Char) : Bool :=
  c.isAlphanum || c == '-' || c == '_' || c == '.' || c == '~' || c == '!' || c == '*'

def hexDigit (n : Nat) : Char :=
  if n < 10 then Char.ofNat ('0'.toNat + n) else Char.ofNat ('A'.toNat + (n - 10))

def encodeByte (b : UInt8) : List Char := ['%', hexDigit (b.toNat / 16), hexDigit (b.toNat % 16)]

/-- Angle brackets take lower-case hex digits, since `%3C` and `%3E` are comparison signs. -/
def encodeChar (c : Char) : List Char :=
  if isPlain c then [c]
  else if c = '<' then ['%', '3', 'c']
  else if c = '>' then ['%', '3', 'e']
  else (String.utf8EncodeChar c).flatMap encodeByte

def encode (s : String) : String := String.ofList (s.toList.flatMap encodeChar)

def byte? (a b : Char) : Option UInt8 := do
  let high ← digitValue? 16 a
  let low ← digitValue? 16 b
  return UInt8.ofNat (high * 16 + low)

/-- The bytes a text stands for. A percent sign without two hex digits stands for itself. -/
def bytes : List Char → List UInt8
  | [] => []
  | '%' :: a :: b :: s =>
      match byte? a b with
      | some v => v :: bytes s
      | none => String.utf8EncodeChar '%' ++ bytes (a :: b :: s)
  | c :: s => String.utf8EncodeChar c ++ bytes s

def decode? (s : String) : Option String := String.fromUTF8? ⟨(bytes s.toList).toArray⟩

end ResourceQuery.Percent
