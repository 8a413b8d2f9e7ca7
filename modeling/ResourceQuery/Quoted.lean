import ResourceQuery.Unicode.Property.Grapheme
import ResourceQuery.Unicode.Recent

namespace ResourceQuery.Quoted

open Unicode

/-- Whether a character can be seen in its place. Marks join the character before them. -/
def isVisible (c : Char) : Bool :=
  c == ' ' || (graphic ∪ recentAssigned).has c &&
    !(separator ∪ graphemeExtend ∪ recentNonspacingMark).has c

def escape (c : Char) : List Char :=
  match c with
  | '"' => ['\\', '"']
  | '\\' => ['\\', '\\']
  | '\t' => ['\\', 't']
  | '\n' => ['\\', 'n']
  | '\r' => ['\\', 'r']
  | '\x00' => ['\\', '0']
  | c =>
      if isVisible c then [c]
      else '\\' :: 'u' :: '\x7b' :: Nat.toDigits 16 c.toNat ++ ['\x7d']

def quote (s : String) : String := "\"" ++ String.ofList (s.toList.flatMap escape) ++ "\""

end ResourceQuery.Quoted
