import ResourceQuery.Pattern.Flags
import ResourceQuery.Pattern.Look
import ResourceQuery.Pattern.Property

namespace ResourceQuery.Pattern

open Text

inductive Atom
  | char (c : Char)
  | chars (s : CharSet)
  | look (l : Look)

def code? (digits : List Char) : Except Fault Char :=
  match digits.mapM (digitValue? 16) with
  | none | some [] => .error .characterCode
  | some values =>
      let n := values.foldl (fun n d => 16 * n + d) 0
      if h : n.isValidChar then .ok (Char.ofNatAux n h) else .error .characterCode

def takeCount (f : Flags) : Nat → List Char → Except Fault (List Char × List Char)
  | 0, s => .ok ([], s)
  | count + 1, s =>
      match f.skip s with
      | [] => .error .unfinishedEscape
      | c :: s => do
          let (taken, s) ← takeCount f count s
          return (c :: taken, s)

def takeBraced (f : Flags) (s : List Char) : Except Fault (List Char × List Char) :=
  match f.take (· != '\x7d') s with
  | (body, _ :: s) => .ok (body, s)
  | (_, []) => .error .unfinishedEscape

/-- Reads a character code of `count` hex digits, or of any number of them within braces. One of two
digits is the value of a byte without Unicode, and no text if it is none of ASCII. -/
def readCode (f : Flags) (count : Nat) (s : List Char) : Except Fault (Char × List Char) :=
  match f.skip s with
  | '\x7b' :: s => do
      let (digits, s) ← takeBraced f s
      return (← code? digits, s)
  | s => do
      let (digits, s) ← takeCount f count s
      let c ← code? digits
      if count = 2 ∧ !f.unicode ∧ 0x80 ≤ c.toNat then throw .notText
      return (c, s)

def readProperty (f : Flags) (negated : Bool) (s : List Char) :
    Except Fault (CharSet × List Char) := do
  let (body, s) ←
    match f.skip s with
    | [] | '\\' :: _ => throw .unfinishedEscape
    | '\x7b' :: s => takeBraced f s
    | c :: s => pure ([c], s)
  match Property.described? body with
  | some (unequal, a) =>
      if f.unicode then return (← f.close (negated != unequal) a, s) else throw .unknownProperty
  | none => throw .unknownProperty

def wordEdge? (name : String) : Option WordEdge :=
  match name with
  | "start" => some .start
  | "end" => some .stop
  | "start-half" => some .noneBefore
  | "end-half" => some .noneAfter
  | _ => none

/-- Reads what follows the letter of a word boundary. Braces that hold no name are a count. -/
def readBoundary (f : Flags) (s : List Char) : Except Fault (WordEdge × List Char) :=
  match s with
  | '\x7b' :: t =>
      match f.take (fun c => c.isAlpha || c == '-') t with
      | (_, []) => .error .unknownEscape
      | ([], _) => .ok (.boundary, s)
      | (name, c :: rest) =>
          match wordEdge? (String.ofList name) with
          | some e => if c = '\x7d' then .ok (e, rest) else .error .unknownEscape
          | none => .error .unknownEscape
  | s => .ok (.boundary, s)

/-- ASCII characters other than letters, digits and angle brackets stand for themselves. -/
def isEscapable (c : Char) : Bool := c.toNat < 0x80 && !c.isAlphanum && c != '<' && c != '>'

def readEscape (f : Flags) (s : List Char) : Except Fault (Atom × List Char) :=
  match s with
  | [] => .error .unfinishedEscape
  | c :: s => do
      let char (c : Char) := pure (Atom.char c, s)
      let chars (a : CharSet) := pure (Atom.chars a, s)
      let others (a : CharSet) :=
        if f.unicode then pure (Atom.chars a.compl, s) else throw Fault.notText
      let look (l : Look) := pure (Atom.look l, s)
      match c with
      | 'x' => let (c, s) ← readCode f 2 s; return (.char c, s)
      | 'u' => let (c, s) ← readCode f 4 s; return (.char c, s)
      | 'U' => let (c, s) ← readCode f 8 s; return (.char c, s)
      | 'p' => let (a, s) ← readProperty f false s; return (.chars a, s)
      | 'P' => let (a, s) ← readProperty f true s; return (.chars a, s)
      | 'd' => chars f.digit
      | 'D' => others f.digit
      | 's' => chars f.space
      | 'S' => others f.space
      | 'w' => chars f.word
      | 'W' => others f.word
      | 'a' => char '\x07'
      | 'f' => char '\x0c'
      | 't' => char '\t'
      | 'n' => char '\n'
      | 'r' => char '\r'
      | 'v' => char '\x0b'
      | 'A' => look .start
      | 'z' => look .stop
      | 'b' => let (e, s) ← readBoundary f s; return (.look (.word e f.unicode), s)
      | 'B' => look (.word .noBoundary f.unicode)
      | '<' => look (.word .start f.unicode)
      | '>' => look (.word .stop f.unicode)
      | c =>
          if c.isDigit then throw .backreference
          else if isEscapable c then char c
          else throw .unknownEscape

end ResourceQuery.Pattern
