import ResourceQuery.Pattern.Fault
import ResourceQuery.Pattern.Named
import ResourceQuery.Text

namespace ResourceQuery.Pattern

structure Flags where
  ignoreCase : Bool
  multiLine : Bool
  dotAll : Bool
  crlf : Bool
  unicode : Bool
  spaced : Bool
  swapGreed : Bool
  deriving DecidableEq, Repr

namespace Flags

def initial (ignoreCase : Bool) : Flags := ⟨ignoreCase, false, false, false, true, false, false⟩

def set? (f : Flags) (value : Bool) (name : Char) : Option Flags :=
  match name with
  | 'i' => some { f with ignoreCase := value }
  | 'm' => some { f with multiLine := value }
  | 's' => some { f with dotAll := value }
  | 'R' => some { f with crlf := value }
  | 'u' => some { f with unicode := value }
  | 'x' => some { f with spaced := value }
  | 'U' => some { f with swapGreed := value }
  | _ => none

def word (f : Flags) : CharSet := if f.unicode then .word else .asciiWord

def digit (f : Flags) : CharSet := if f.unicode then .digit else .asciiDigit

def space (f : Flags) : CharSet := if f.unicode then .space else .asciiSpace

def fold (f : Flags) (a : CharSet) : CharSet := if f.ignoreCase then a.foldCase f.unicode else a

/-- What a set stands for: the characters that differ from its own in case only count as well if
need be, and then its complement may be meant. Without Unicode that one would have single bytes. -/
def close (f : Flags) (negated : Bool) (a : CharSet) : Except Fault CharSet :=
  if !negated then .ok (f.fold a)
  else if f.unicode then .ok (f.fold a).compl
  else .error .notText

/-- Takes up characters as long as `p` holds for them. Between them there may be what does not
count, where `comment` says whether a comment is under way. -/
def takeFrom (spaced : Bool) (p : Char → Bool) : Bool → List Char → List Char × List Char
  | _, [] => ([], [])
  | true, c :: s => takeFrom spaced p (c != '\n') s
  | false, c :: s =>
      if spaced && Text.isBlank c then takeFrom spaced p false s
      else if spaced && c == '#' then takeFrom spaced p true s
      else if p c then
        let (taken, rest) := takeFrom spaced p false s
        (c :: taken, rest)
      else ([], c :: s)

def take (f : Flags) (p : Char → Bool) (s : List Char) : List Char × List Char :=
  takeFrom f.spaced p false s

def skip (f : Flags) (s : List Char) : List Char := (f.take (fun _ => false) s).2

/-- The character by which a dash before it makes a range or makes none. If a comment stands there,
its text counts. -/
def peek (f : Flags) (s : List Char) : Option Char :=
  if !f.spaced then s.head?
  else
    match s.dropWhile Text.isBlank with
    | '#' :: s => (s.dropWhile Text.isBlank).head?
    | s => s.head?

def read (f : Flags) (value : Bool) (seen : List Char) :
    List Char → Except Fault (Flags × List Char)
  | [] => .error .flags
  | c :: s =>
      if c = ':' ∨ c = ')' then
        if seen.head? = some '-' then .error .flags else .ok (f, c :: s)
      else if seen.contains c then .error .flags
      else if c = '-' then read f false (c :: seen) s
      else
        match f.set? value c with
        | some f => read f value (c :: seen) s
        | none => .error .flags

end Flags

end ResourceQuery.Pattern
