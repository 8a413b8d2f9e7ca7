import ResourceQuery.Text
import ResourceQuery.SyntaxFault
import ResourceQuery.Comparison

namespace ResourceQuery.Shorthand

open Text

def isIdent (c : Char) : Bool :=
  c.isAlphanum || c == '+' || c == '*' || c == '$' || c == '-' || c == ':' || c == '%' ||
    c == '.' || c == '_'

def group? : List Char → Option (List Char × List Char)
  | '(' :: s =>
      let body := s.takeWhile (fun c => isIdent c || c == ',')
      match body, s.drop body.length with
      | _ :: _, ')' :: rest => some ('(' :: body ++ [')'], rest)
      | _, _ => none
  | _ => none

def withWord (sign s : List Char) : List Char × List Char :=
  let word := s.takeWhile isWord
  match s.drop word.length with
  | '=' :: rest => (sign ++ word ++ ['='], rest)
  | _ => (sign, s)

def sign? : List Char → Option (List Char × List Char)
  | '<' :: '=' :: s => some (withWord ['<', '='] s)
  | '>' :: '=' :: s => some (withWord ['>', '='] s)
  | '!' :: '=' :: s => some (withWord ['!', '='] s)
  | '=' :: s => some (withWord ['='] s)
  | '<' :: s => some (['<'], s)
  | '>' :: s => some (['>'], s)
  | _ => none

structure Window where
  property : List Char
  sign : List Char
  value : List Char
  rest : List Char

def ident (s : List Char) : List Char × List Char :=
  (s.takeWhile isIdent, s.dropWhile isIdent)

def Window.after? (property rest : List Char) : Option Window := do
  let (sign, rest) ← sign? rest
  let (value, rest) := (group? rest).getD (ident rest)
  return ⟨property, sign, value, rest⟩

/-- Either side of the sign is a group where it can be one, and else a run of identifier
characters, which may be empty. -/
def window? (s : List Char) : Option Window :=
  match (group? s).bind (fun (property, rest) => Window.after? property rest) with
  | some w => some w
  | none => Window.after? (ident s).1 (ident s).2

def callName (sign : List Char) : Except SyntaxFault (List Char) :=
  let illegal := .error (.illegalOperator (String.ofList sign))
  if sign.length < 3 then
    match Comparison.ofSign? (String.ofList sign) with
    | some c => .ok c.name.toList
    | none => illegal
  else
    match sign with
    | '=' :: s =>
        if s.getLast? == some '=' && s.dropLast.all isWord && !s.dropLast.isEmpty then .ok s.dropLast
        else illegal
    | _ => illegal

def Window.call (w : Window) : Except SyntaxFault (List Char) := do
  let name ← callName w.sign
  return name ++ '(' :: w.property ++ ',' :: w.value ++ [')']

/-- Percent-coded angle brackets are comparison signs of their own, joined to an equality sign
that follows them. -/
def decodeBrackets (s : List Char) : List Char :=
  replace "%3E".toList "=gt=".toList <|
  replace "%3C".toList "=lt=".toList <|
  replace "%3E=".toList "=ge=".toList <|
  replace "%3C=".toList "=le=".toList s

theorem group?_length {s g rest : List Char} (h : group? s = some (g, rest)) :
    rest.length < s.length := by
  unfold group? at h
  split at h
  · rename_i s
    simp only at h
    split at h
    · rename_i hd
      have := congrArg List.length hd
      simp only [List.length_drop, List.length_cons] at this
      simp only [Option.some.injEq, Prod.mk.injEq] at h
      simp only [List.length_cons, ← h.2]
      omega
    · simp at h
  · simp at h

theorem withWord_length (sign s : List Char) : (withWord sign s).2.length ≤ s.length := by
  unfold withWord
  simp only
  split
  · rename_i h
    have := congrArg List.length h
    simp only [List.length_drop, List.length_cons] at this
    simp only
    omega
  · exact Nat.le_refl _

theorem sign?_length {s : List Char} {w : List Char × List Char} (h : sign? s = some w) :
    w.2.length < s.length := by
  unfold sign? at h
  split at h <;> simp only [Option.some.injEq, reduceCtorEq] at h <;> subst h
  case h_5 | h_6 => simp
  all_goals exact Nat.lt_of_le_of_lt (withWord_length _ _) (by simp only [List.length_cons]; omega)

theorem ident_length (s : List Char) : (ident s).2.length ≤ s.length :=
  (List.dropWhile_sublist _).length_le

theorem Window.after?_length {p s : List Char} {w : Window} (h : Window.after? p s = some w) :
    w.rest.length < s.length := by
  simp only [Window.after?, Option.bind_eq_bind, Option.bind_eq_some_iff] at h
  obtain ⟨⟨sign, rest⟩, hs, h⟩ := h
  have hl : rest.length < s.length := sign?_length hs
  simp only [Option.pure_def, Option.some.injEq] at h
  rw [← h]
  simp only
  cases hg : group? rest with
  | none =>
      have := ident_length rest
      simp only [Option.getD_none]
      omega
  | some g =>
      have := group?_length hg
      simp only [Option.getD_some]
      omega

theorem window?_length {s : List Char} {w : Window} (h : window? s = some w) :
    w.rest.length < s.length := by
  unfold window? at h
  split at h
  · rename_i v hv
    obtain ⟨g, hg, hw⟩ := Option.bind_eq_some_iff.1 hv
    have h1 := group?_length hg
    have h2 := Window.after?_length hw
    rw [← Option.some.inj h]
    omega
  · have h1 := Window.after?_length h
    have h2 := ident_length s
    omega

def expandFrom (s : List Char) : Except SyntaxFault (List Char) :=
  match _h : window? s with
  | some w => do
      let call ← w.call
      let rest ← expandFrom w.rest
      return call ++ rest
  | none =>
      match s with
      | [] => return []
      | c :: s => do
          let rest ← expandFrom s
          return c :: rest
termination_by s.length
decreasing_by
  · exact window?_length ‹_›
  · simp

def expand (text : String) : Except SyntaxFault String :=
  (expandFrom (decodeBrackets text.toList)).map String.ofList

end ResourceQuery.Shorthand
