import ResourceQuery.Decimal
import ResourceQuery.Pattern.Brackets
import ResourceQuery.Pattern.Machine.Build
import ResourceQuery.Unicode.Alphabetic
import ResourceQuery.Unicode.Recent

namespace ResourceQuery.Pattern

open Text Unicode

structure Groups where
  count : Nat
  names : List String

def Groups.add (g : Groups) (name : Option String) : Groups := ⟨g.count + 1, name.toList ++ g.names⟩

/-- What follows the opening parenthesis of a group: flags for the rest of the group around it, or
the start of a group that is read with flags of its own. The match of a group may be captured. -/
inductive GroupHead
  | flags (f : Flags) (rest : List Char)
  | opened (f : Flags) (captured : Bool) (name : Option String) (rest : List Char)

def isNameStart (c : Char) : Bool := c == '_' || alphabetic.has c || recentAlphabetic.has c

def isNameChar (c : Char) : Bool :=
  isNameStart c || c == '.' || c == '[' || c == ']' || number.has c || recentDecimalNumber.has c

def readName (g : Groups) (s : List Char) : Except Fault (String × List Char) :=
  let name := s.takeWhile (· != '>')
  match s.drop name.length, name with
  | '>' :: rest, c :: cs =>
      if !isNameStart c || !cs.all isNameChar then .error .groupName
      else if g.names.contains (String.ofList name) then .error .repeatedGroupName
      else .ok (String.ofList name, rest)
  | _, _ => .error .groupName

def readGroupHead (f : Flags) (g : Groups) (s : List Char) : Except Fault GroupHead := do
  match f.skip s with
  | '?' :: '=' :: _ | '?' :: '!' :: _ | '?' :: '<' :: '=' :: _ | '?' :: '<' :: '!' :: _ =>
      throw .lookAround
  | '?' :: 'P' :: '<' :: s | '?' :: '<' :: s =>
      let (name, s) ← readName g s
      return .opened f true (some name) s
  | '?' :: ')' :: _ => throw .nothingToRepeat
  | '?' :: s =>
      let (f, s) ← f.read true [] s
      match s with
      | ')' :: s => return .flags f s
      | s => return .opened f false none (s.drop 1)
  | s => return .opened f true none s

structure Count where
  least : Nat
  most : Option Nat

def readNumber (f : Flags) (s : List Char) : Except Fault (Nat × List Char) :=
  let (digits, s) := f.take Char.isDigit (s.dropWhile isBlank)
  let n := Decimal.natOfDigits digits
  if digits.isEmpty ∨ 0x100000000 ≤ n then .error .repeatCount
  else .ok (n, s.dropWhile isBlank)

def readCount (f : Flags) (s : List Char) : Except Fault (Count × List Char) := do
  let (least, s) ← readNumber f s
  match s with
  | '\x7d' :: s => return (⟨least, some least⟩, s)
  | ',' :: s =>
      match f.skip s with
      | '\x7d' :: s => return (⟨least, none⟩, s)
      | s =>
          let (most, s) ← readNumber f s
          match s with
          | '\x7d' :: s =>
              if least ≤ most then return (⟨least, some most⟩, s) else throw .repeatCount
          | _ => throw .repeatCount
  | _ => throw .repeatCount

def readLazy : List Char → Bool × List Char
  | '?' :: s => (true, s)
  | s => (false, s)

inductive Item
  | part (e : Nested Expr)
  | flags

def Item.nested : Item → Nested Expr
  | part e => e
  | flags => .leaf .empty

abbrev Row := List Item

def Row.close (row : Row) : Nested Expr := .join .concat (row.reverse.map Item.nested)

/-- Repeats the part read last. Flags cannot be repeated. -/
def Row.repeatLast (f : Flags) (count : Count) (isLazy : Bool) : Row → Except Fault Row
  | .part e :: row =>
      .ok (.part (e.wrap (.repeated · count.least count.most (isLazy == f.swapGreed))) :: row)
  | _ => .error .nothingToRepeat

def dot (f : Flags) : Except Fault Expr :=
  if !f.unicode then .error .notText
  else if f.dotAll then .ok (.chars .full)
  else if f.crlf then .ok (.chars (.compl (.union (.single '\r') (.single '\n'))))
  else .ok (.chars (.compl (.single '\n')))

/-- A character that has others for cases is a set. -/
def Atom.expr (f : Flags) : Atom → Expr
  | char c => .ofSet (f.fold (.single c))
  | chars a => .ofSet a
  | look l => .look l

/-- Reads up to the end of a group, which is not taken up. The branches and the parts of the last
branch that have been read come last first, and every step takes up a character at least. -/
def readBranches : Nat → Flags → Groups → List (Nested Expr) → Row → List Char →
    Except Fault (Nested Expr × Groups × List Char)
  | 0, _, _, _, _, _ => .error .unclosedGroup
  | fuel + 1, f, g, branches, row, s => do
      let part (e : Expr) (s : List Char) :=
        readBranches fuel f g branches (.part (.leaf e) :: row) s
      let repeated (least : Nat) (most : Option Nat) (s : List Char) := do
        let (isLazy, s) := readLazy s
        readBranches fuel f g branches (← row.repeatLast f ⟨least, most⟩ isLazy) s
      match f.skip s with
      | [] => return (.join .alternation (row.close :: branches).reverse, g, [])
      | ')' :: s => return (.join .alternation (row.close :: branches).reverse, g, ')' :: s)
      | '|' :: s => readBranches fuel f g (row.close :: branches) [] s
      | '(' :: s =>
          match ← readGroupHead f g s with
          | .flags f s => readBranches fuel f g branches (.flags :: row) s
          | .opened inner captured name s =>
              let opened := if captured then g.add name else g
              let (e, g, s) ← readBranches fuel inner opened [] [] s
              let group := if captured then Expr.group opened.count else id
              match s with
              | ')' :: s => readBranches fuel f g branches (.part (e.wrap group) :: row) s
              | _ => throw .unclosedGroup
      | '[' :: s =>
          let (a, s) ← readBrackets f s
          readBranches fuel f g branches (.part ⟨.ofSet a.value, a.depth⟩ :: row) s
      | '?' :: s => repeated 0 (some 1) s
      | '*' :: s => repeated 0 none s
      | '+' :: s => repeated 1 none s
      | '\x7b' :: s =>
          let (count, s) ← readCount f (f.skip s)
          repeated count.least count.most (f.skip s)
      | '.' :: s => part (← dot f) s
      | '^' :: s => part (.look (if f.multiLine then .lineStart f.crlf else .start)) s
      | '$' :: s => part (.look (if f.multiLine then .lineEnd f.crlf else .stop)) s
      | '\\' :: s =>
          let (a, s) ← readEscape f s
          part (a.expr f) s
      | c :: s => part ((Atom.char c).expr f) s

def read (ignoreCase : Bool) (s : List Char) : Except Fault Expr := do
  let (e, _, rest) ← readBranches (s.length + 1) (.initial ignoreCase) ⟨0, []⟩ [] [] s
  if !rest.isEmpty then throw .unopenedGroup
  let e ← e.bounded
  if e.fits then return e else throw .tooLarge

end ResourceQuery.Pattern
