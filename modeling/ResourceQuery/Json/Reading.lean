import ResourceQuery.Json.Basic
import ResourceQuery.Json.Fault
import ResourceQuery.Decimal
import ResourceQuery.Text

namespace ResourceQuery.Json

open Text

def stop {α : Type} (cause : Cause) (rest : List Char) : Except Stop α := .error ⟨cause, rest, 0⟩

def stopAt {α : Type} (cause : Cause) (rest : List Char) : Except Stop α :=
  .error ⟨cause, rest, 1⟩

def isGap (c : Char) : Bool := c == ' ' || c == '\n' || c == '\t' || c == '\r'

def skipGap (s : List Char) : List Char := s.dropWhile isGap

/-- The digits of a number as far as 64 bits hold them, with the power of ten to multiply by. -/
structure Scan where
  significand : Nat
  exponent : Int
  deriving DecidableEq, Repr

def Scan.fits (s : Scan) (c : Char) : Bool :=
  10 * s.significand + Decimal.digitValue c < 0x10000000000000000

def Scan.push (s : Scan) (c : Char) : Nat := 10 * s.significand + Decimal.digitValue c

def Scan.whole (digits : List Char) : Scan :=
  digits.foldl
    (fun s c =>
      if s.exponent = 0 ∧ s.fits c then ⟨s.push c, 0⟩ else ⟨s.significand, s.exponent + 1⟩)
    ⟨0, 0⟩

def Scan.fraction : Scan → List Char → Scan
  | s, [] => s
  | s, c :: rest => if s.fits c then fraction ⟨s.push c, s.exponent - 1⟩ rest else s

def powerOfTen (n : Nat) : Binary64 := .ofNat (Nat.pow 10 n)

/-- Divides by powers of ten, the largest that there is as often as need be. Two of those bring
every 64-bit number down to zero. -/
def divideByTens : Nat → Binary64 → Nat → Binary64
  | 0, x, n => x.divFinite (powerOfTen (min n 308))
  | fuel + 1, x, n =>
      if n ≤ 308 then x.divFinite (powerOfTen n)
      else divideByTens fuel (x.divFinite (powerOfTen 308)) (n - 308)

/-- The double of scanned digits: rounded once to the significand, and once more where it is
multiplied or divided. Fails where the result is not finite. -/
def Scan.toDouble? (negative : Bool) (s : Scan) : Option Binary64 :=
  let x : Binary64 := .ofNat s.significand
  let y :=
    if s.exponent < 0 then divideByTens 3 x (-s.exponent).toNat
    else if s.significand = 0 then x
    else if 308 < s.exponent then .infinity false
    else x.mulFinite (powerOfTen s.exponent.toNat)
  if y.isFinite then some (if negative then y.neg else y) else none

def double (negative : Bool) (s : Scan) (rest : List Char) : Except Stop (Json × List Char) :=
  match s.toDouble? negative with
  | some x => .ok (.number (.double x), rest)
  | none => stop .numberOutOfRange rest

def exponentBound : Nat := 0x80000000

def exponentDigits (n : Nat) : List Char → Nat × List Char
  | [] => (n, [])
  | c :: s =>
      if c.isDigit then
        let n := 10 * n + Decimal.digitValue c
        if n < exponentBound then exponentDigits n s else (n, s)
      else (n, c :: s)

def readExponent (negative : Bool) (s : Scan) (text : List Char) :
    Except Stop (Json × List Char) :=
  let (down, text) :=
    match text with
    | '+' :: t => (false, t)
    | '-' :: t => (true, t)
    | t => (false, t)
  match text with
  | [] => stop .endInValue []
  | c :: t =>
      if !c.isDigit then stopAt .invalidNumber (c :: t)
      else
        let (n, rest) := exponentDigits 0 (c :: t)
        if n < exponentBound then
          double negative ⟨s.significand, if down then s.exponent - n else s.exponent + n⟩ rest
        else if s.significand = 0 ∨ down then
          .ok (.number (.double (.zero negative)), rest.dropWhile Char.isDigit)
        else stop .numberOutOfRange rest

def isExponentMark (c : Char) : Bool := c == 'e' || c == 'E'

/-- Reads what follows the digits before a point, if anything of the number does. A number without
point and exponent is an integer if it fits, except for a negative zero. -/
def readTail (negative : Bool) (s : Scan) (text : List Char) : Except Stop (Json × List Char) :=
  match text with
  | '.' :: t =>
      let digits := t.takeWhile Char.isDigit
      let rest := t.dropWhile Char.isDigit
      if digits.isEmpty then
        stopAt (if rest.isEmpty then .endInValue else .invalidNumber) rest
      else
        let s := s.fraction digits
        match rest with
        | c :: r => if isExponentMark c then readExponent negative s r else double negative s rest
        | [] => double negative s []
  | c :: t =>
      if isExponentMark c then readExponent negative s t else integral (c :: t)
  | [] => integral []
where
  integral (rest : List Char) : Except Stop (Json × List Char) :=
    if s.exponent = 0 ∧ !negative then .ok (.number (.integer s.significand), rest)
    else if s.exponent = 0 ∧ 0 < s.significand ∧ s.significand ≤ 0x8000000000000000 then
      .ok (.number (.integer (-(s.significand : Int))), rest)
    else double negative s rest

def readNumber (negative : Bool) (s : List Char) : Except Stop (Json × List Char) :=
  match s with
  | [] => stop .endInValue []
  | '0' :: t =>
      if (t.head?.map Char.isDigit).getD false then stopAt .invalidNumber t
      else readTail negative ⟨0, 0⟩ t
  | c :: t =>
      if !c.isDigit then stopAt .invalidNumber (c :: t)
      else
        readTail negative (Scan.whole (s.takeWhile Char.isDigit)) (s.dropWhile Char.isDigit)

def unit? : List Char → Option (Nat × List Char)
  | a :: b :: c :: d :: s => do
      let digits ← [a, b, c, d].mapM (digitValue? 16)
      return (digits.foldl (16 * · + ·) 0, s)
  | _ => none

/-- Four bytes are read before they are judged. -/
def readUnit (s : List Char) : Except Stop (Nat × List Char) :=
  match unit? s with
  | some r => .ok r
  | none => if (utf8 s).length < 4 then stop .endInString [] else .error ⟨.invalidEscape, s, 4⟩

def isHighSurrogate (n : Nat) : Bool := 0xd800 ≤ n && n < 0xdc00

def isLowSurrogate (n : Nat) : Bool := 0xdc00 ≤ n && n < 0xe000

/-- Reads the character that the rest of an escape names after its letter `u`. Two surrogates make
one character, and neither stands alone. -/
def readUnicode (s : List Char) : Except Stop (Char × List Char) := do
  let (high, s) ← readUnit s
  if isLowSurrogate high then stop .loneSurrogate s
  else if !isHighSurrogate high then return (Char.ofNat high, s)
  else
    match s with
    | [] => stop .endInString []
    | '\\' :: [] => stop .endInString []
    | '\\' :: 'u' :: s => do
        let (low, s) ← readUnit s
        if isLowSurrogate low then
          return (Char.ofNat (0x10000 + (high - 0xd800) * 0x400 + (low - 0xdc00)), s)
        else stop .loneSurrogate s
    | '\\' :: s => stopAt .unfinishedSurrogate s
    | s => stopAt .unfinishedSurrogate s

def readEscape : List Char → Except Stop (Char × List Char)
  | [] => stop .endInString []
  | '"' :: s => .ok ('"', s)
  | '\\' :: s => .ok ('\\', s)
  | '/' :: s => .ok ('/', s)
  | 'b' :: s => .ok ('\x08', s)
  | 'f' :: s => .ok ('\x0c', s)
  | 'n' :: s => .ok ('\n', s)
  | 'r' :: s => .ok ('\r', s)
  | 't' :: s => .ok ('\t', s)
  | 'u' :: s => readUnicode s
  | s => stopAt .invalidEscape s

theorem readUnit_length {s : List Char} {r : Nat × List Char} (h : readUnit s = .ok r) :
    r.2.length < s.length := by
  unfold readUnit at h
  split at h
  · rename_i u hu
    unfold unit? at hu
    split at hu
    · simp only [Option.bind_eq_bind, Option.bind_eq_some_iff, Option.pure_def,
        Option.some.injEq] at hu
      obtain ⟨_, _, hr⟩ := hu
      rw [Except.ok.injEq] at h
      rw [← h, ← hr]
      simp only [List.length_cons]
      omega
    · simp at hu
  · split at h <;> simp [stop] at h

theorem readUnicode_length {s : List Char} {r : Char × List Char} (h : readUnicode s = .ok r) :
    r.2.length < s.length := by
  unfold readUnicode at h
  cases hu : readUnit s with
  | error e => simp [hu, bind, Except.bind] at h
  | ok u =>
      have hl := readUnit_length hu
      simp only [hu, bind, Except.bind] at h
      split at h
      · simp [stop] at h
      · split at h
        · simp only [pure, Except.pure, Except.ok.injEq] at h
          rw [← h]
          exact hl
        · split at h
          · simp [stop] at h
          · simp [stop] at h
          · rename_i t ht
            rw [ht] at hl
            cases hv : readUnit t with
            | error e => simp [hv] at h
            | ok v =>
                have hw := readUnit_length hv
                simp only [hv] at h
                split at h
                · simp only [pure, Except.pure, Except.ok.injEq] at h
                  rw [← h]
                  simp only [List.length_cons] at hl ⊢
                  omega
                · simp [stop] at h
          · simp [stopAt] at h
          · simp [stopAt] at h

theorem readEscape_length {s : List Char} {r : Char × List Char} (h : readEscape s = .ok r) :
    r.2.length < s.length := by
  unfold readEscape at h
  split at h
  case h_1 => simp [stop] at h
  case h_10 =>
    have := readUnicode_length h
    simp only [List.length_cons]
    omega
  case h_11 => simp [stopAt] at h
  all_goals
    rw [Except.ok.injEq] at h
    simp [← h]

def readString (s : List Char) : Except Stop (List Char × List Char) :=
  match s with
  | [] => stop .endInString []
  | '"' :: s => .ok ([], s)
  | '\\' :: s =>
      match _h : readEscape s with
      | .error e => .error e
      | .ok (c, rest) => do
          let (text, rest) ← readString rest
          return (c :: text, rest)
  | c :: s =>
      if c.toNat < 32 then stopAt .controlCharacter (c :: s)
      else do
        let (text, rest) ← readString s
        return (c :: text, rest)
termination_by s.length
decreasing_by
  · have : rest.length < s.length := readEscape_length ‹_›
    simp only [List.length_cons]
    omega
  · simp

def readWord (value : Json) : List Char → List Char → Except Stop (Json × List Char)
  | [], s => .ok (value, s)
  | _ :: _, [] => stop .endInValue []
  | e :: es, c :: s => if c = e then readWord value es s else stopAt .expectedWord (c :: s)

def nextItem (first : Bool) (s : List Char) : Except Stop (List Char ⊕ List Char) :=
  match skipGap s with
  | [] => stop .endInList []
  | ']' :: s => .ok (.inr s)
  | c :: s =>
      if first then .ok (.inl (c :: s))
      else if c = ',' then
        match skipGap s with
        | [] => stop .endInValue []
        | ']' :: s => stopAt .trailingComma (']' :: s)
        | s => .ok (.inl s)
      else stopAt .expectedListEnd (c :: s)

def nextKey (first : Bool) (s : List Char) : Except Stop (List Char ⊕ List Char) :=
  match skipGap s with
  | [] => stop .endInObject []
  | '\x7d' :: s => .ok (.inr s)
  | c :: s =>
      if first then (if c = '"' then .ok (.inl s) else stopAt .keyNotString (c :: s))
      else if c = ',' then
        match skipGap s with
        | [] => stop .endInValue []
        | '\x7d' :: s => stopAt .trailingComma ('\x7d' :: s)
        | '"' :: s => .ok (.inl s)
        | s => stopAt .keyNotString s
      else stopAt .expectedObjectEnd (c :: s)

def readColon (s : List Char) : Except Stop (List Char) :=
  match skipGap s with
  | [] => stop .endInObject []
  | ':' :: s => .ok s
  | s => stopAt .expectedColon s

/-- Reads the rest of a list. Each item takes up a character at least, so the length of the text
is fuel enough. -/
def readItems (value : List Char → Except Stop (Json × List Char)) :
    Nat → Bool → List Char → Except Stop (List Json × List Char)
  | 0, _, _ => stop .endInList []
  | fuel + 1, first, s => do
      match ← nextItem first s with
      | .inr s => return ([], s)
      | .inl s =>
          let (x, s) ← value s
          let (xs, s) ← readItems value fuel false s
          return (x :: xs, s)

def readMembers (value : List Char → Except Stop (Json × List Char)) :
    Nat → Bool → List Char → Except Stop (List (String × Json) × List Char)
  | 0, _, _ => stop .endInObject []
  | fuel + 1, first, s => do
      match ← nextKey first s with
      | .inr s => return ([], s)
      | .inl s =>
          let (key, s) ← readString s
          let s ← readColon s
          let (x, s) ← value s
          let (xs, s) ← readMembers value fuel false s
          return ((String.ofList key, x) :: xs, s)

def readValue (room : Nat) (s : List Char) : Except Stop (Json × List Char) :=
  match skipGap s with
  | [] => stop .endInValue []
  | 'n' :: s => readWord .null "ull".toList s
  | 't' :: s => readWord (.bool true) "rue".toList s
  | 'f' :: s => readWord (.bool false) "alse".toList s
  | '-' :: s => readNumber true s
  | '"' :: s => do
      let (text, s) ← readString s
      return (.string (String.ofList text), s)
  | '[' :: s =>
      match room with
      | 0 => stopAt .tooDeep ('[' :: s)
      | room + 1 => do
          let (items, s) ← readItems (readValue room) (s.length + 1) true s
          return (.array items, s)
  | '\x7b' :: s =>
      match room with
      | 0 => stopAt .tooDeep ('\x7b' :: s)
      | room + 1 => do
          let (members, s) ← readMembers (readValue room) (s.length + 1) true s
          return (ofMembers members, s)
  | c :: s => if c.isDigit then readNumber false (c :: s) else stopAt .expectedValue (c :: s)

def maxDepth : Nat := 127

def readEnd {α : Type} (value : α) (s : List Char) : Except Stop α :=
  match skipGap s with
  | [] => .ok value
  | s => stopAt .trailingCharacters s

def read (text : List Char) : Except Fault Json :=
  ((readValue maxDepth text).bind fun (v, s) => readEnd v s).mapError (Stop.fault text)

/-- Reads the text between the quotes of a string. Places count the opening quote. -/
def readQuoted (content : List Char) : Except Fault String :=
  ((readString (content ++ ['"'])).bind fun (t, s) => readEnd (String.ofList t) s).mapError
    (Stop.fault ('"' :: content ++ ['"']))

end ResourceQuery.Json
