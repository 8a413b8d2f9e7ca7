namespace ResourceQuery.Text

/-- The characters with the Unicode property White_Space. -/
def isBlank (c : Char) : Bool :=
  let n := c.toNat
  (9 ≤ n && n ≤ 13) || n == 0x20 || n == 0x85 || n == 0xa0 || n == 0x1680 ||
    (0x2000 ≤ n && n ≤ 0x200a) || n == 0x2028 || n == 0x2029 || n == 0x202f ||
    n == 0x205f || n == 0x3000

def isWord (c : Char) : Bool := c.isAlphanum || c == '_'

def isQuote (c : Char) : Bool := c == '\'' || c == '"'

def digitValue? (base : Nat) (c : Char) : Option Nat :=
  let value :=
    if c.isDigit then c.toNat - '0'.toNat
    else if 'a' ≤ c ∧ c ≤ 'f' then c.toNat - 'a'.toNat + 10
    else if 'A' ≤ c ∧ c ≤ 'F' then c.toNat - 'A'.toNat + 10
    else base
  if value < base then some value else none

def trimEnd (s : List Char) : List Char := (s.reverse.dropWhile isBlank).reverse

def trim (s : List Char) : List Char := trimEnd (s.dropWhile isBlank)

def unquote : List Char → List Char
  | q :: s => if isQuote q && s.getLast? == some q then s.dropLast else q :: s
  | [] => []

def bare (s : List Char) : List Char := unquote (trim s)

/-- Replaces each occurrence of `old`, from the left and without overlap. The counter is the
number of characters that still belong to the occurrence last replaced. -/
def replaceFrom (old new : List Char) : Nat → List Char → List Char
  | _, [] => []
  | n + 1, _ :: s => replaceFrom old new n s
  | 0, c :: s =>
      if old.isPrefixOf (c :: s) then new ++ replaceFrom old new (old.length - 1) s
      else c :: replaceFrom old new 0 s

def replace (old new s : List Char) : List Char := replaceFrom old new 0 s

/-- A property of all characters of a text is decided over the text, not over all characters. -/
instance (priority := 2000) decidableForallMem {P : Char → Prop} [DecidablePred P]
    (s : List Char) : Decidable (∀ c ∈ s, P c) := List.decidableBAll P s

theorem ne_of_pos_of_neg {p : Char → Bool} {c d : Char} (hc : p c) (hd : ¬p d) : c ≠ d := by
  rintro rfl
  exact hd hc

theorem not_isQuote_of_pos {p : Char → Bool} {c : Char} (hc : p c) (hs : ¬p '\'') (hd : ¬p '"') :
    ¬isQuote c := by
  intro hq
  simp only [isQuote, Bool.or_eq_true, beq_iff_eq] at hq
  exact hq.elim (ne_of_pos_of_neg hc hs) (ne_of_pos_of_neg hc hd)

end ResourceQuery.Text
