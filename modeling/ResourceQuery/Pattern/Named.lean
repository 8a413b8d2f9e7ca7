import ResourceQuery.Pattern.CharSet
import ResourceQuery.Unicode.Alphabetic

namespace ResourceQuery.Pattern.CharSet

def ofSpans (spans : List (Char × Char)) : CharSet :=
  ofRanges (spans.map fun (a, b) => ⟨a.toNat, b.toNat⟩)

def asciiDigit : CharSet := range '0' '9'

def asciiSpace : CharSet := ofSpans [('\t', '\r'), (' ', ' ')]

def asciiWord : CharSet := ofSpans [('0', '9'), ('A', 'Z'), ('_', '_'), ('a', 'z')]

def digit : CharSet := ofClass Unicode.decimalNumber

def space : CharSet := ofClass Unicode.whiteSpace

def word : CharSet := ofClass Unicode.word

def named? (name : String) : Option CharSet :=
  match name with
  | "alnum" => some (ofSpans [('0', '9'), ('A', 'Z'), ('a', 'z')])
  | "alpha" => some (ofSpans [('A', 'Z'), ('a', 'z')])
  | "ascii" => some (range '\x00' '\x7f')
  | "blank" => some (ofSpans [('\t', '\t'), (' ', ' ')])
  | "cntrl" => some (ofSpans [('\x00', '\x1f'), ('\x7f', '\x7f')])
  | "digit" => some asciiDigit
  | "graph" => some (range '!' '~')
  | "lower" => some (range 'a' 'z')
  | "print" => some (range ' ' '~')
  | "punct" => some (ofSpans [('!', '/'), (':', '@'), ('[', '\x60'), ('\x7b', '~')])
  | "space" => some asciiSpace
  | "upper" => some (range 'A' 'Z')
  | "word" => some asciiWord
  | "xdigit" => some (ofSpans [('0', '9'), ('A', 'F'), ('a', 'f')])
  | _ => none

def asciiOrbits : List (List Nat) := (List.range 26).map fun i => [0x41 + i, 0x61 + i]

def foldCase (unicode : Bool) (a : CharSet) : CharSet :=
  a.closeUnder (if unicode then Unicode.caseOrbits else asciiOrbits)

end ResourceQuery.Pattern.CharSet
