import ResourceQuery.Json.Basic
import ResourceQuery.Binary64.Layout

namespace ResourceQuery.Json

/-- Doubles are written out from a hundred-thousandth on and below 10 ^ 16, integral ones with a
zero after the point. -/
def doubleLayout : Binary64.Layout := ⟨-4, 16, ".0", "+", .even⟩

def writeNumber : Number → List Char
  | .integer n => if n < 0 then '-' :: Decimal.digits n.natAbs else Decimal.digits n.natAbs
  | .double x => doubleLayout.finite x

def hexDigit (n : Nat) : Char :=
  if n < 10 then Char.ofNat ('0'.toNat + n) else Char.ofNat ('a'.toNat + (n - 10))

def writeChar (c : Char) : List Char :=
  match c with
  | '"' => ['\\', '"']
  | '\\' => ['\\', '\\']
  | '\x08' => ['\\', 'b']
  | '\t' => ['\\', 't']
  | '\n' => ['\\', 'n']
  | '\x0c' => ['\\', 'f']
  | '\r' => ['\\', 'r']
  | c =>
      if c.toNat < 32 then
        ['\\', 'u', '0', '0', hexDigit (c.toNat / 16), hexDigit (c.toNat % 16)]
      else [c]

def writeString (s : String) : List Char := '"' :: s.toList.flatMap writeChar ++ ['"']

mutual

def write : Json → List Char
  | null => "null".toList
  | bool true => "true".toList
  | bool false => "false".toList
  | number n => writeNumber n
  | string s => writeString s
  | array items => '[' :: writeItems items ++ [']']
  | object members => '\x7b' :: writeMembers members ++ ['\x7d']

def writeItems : List Json → List Char
  | [] => []
  | [x] => write x
  | x :: xs => write x ++ ',' :: writeItems xs

def writeMembers : List (String × Json) → List Char
  | [] => []
  | [(k, x)] => writeString k ++ ':' :: write x
  | (k, x) :: xs => writeString k ++ ':' :: write x ++ ',' :: writeMembers xs

end

def text (j : Json) : String := String.ofList j.write

def newLine (level : Nat) : List Char := '\n' :: List.replicate (2 * level) ' '

mutual

def writeIndented (level : Nat) : Json → List Char
  | array [] => ['[', ']']
  | object [] => ['\x7b', '\x7d']
  | array items => '[' :: indentedItems (level + 1) items ++ newLine level ++ [']']
  | object members => '\x7b' :: indentedMembers (level + 1) members ++ newLine level ++ ['\x7d']
  | null => write null
  | bool b => write (bool b)
  | number n => write (number n)
  | string s => write (string s)

def indentedItems (level : Nat) : List Json → List Char
  | [] => []
  | [x] => newLine level ++ writeIndented level x
  | x :: xs => newLine level ++ writeIndented level x ++ ',' :: indentedItems level xs

def indentedMembers (level : Nat) : List (String × Json) → List Char
  | [] => []
  | [(k, x)] => newLine level ++ writeString k ++ ':' :: ' ' :: writeIndented level x
  | (k, x) :: xs =>
      newLine level ++ writeString k ++ ':' :: ' ' :: writeIndented level x ++
        ',' :: indentedMembers level xs

end

def indentedText (j : Json) : String := String.ofList (j.writeIndented 0)

end ResourceQuery.Json
