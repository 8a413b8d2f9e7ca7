import ResourceQuery.Unicode.Span

namespace ResourceQuery.Unicode

inductive Class
  | spans (s : List Span)
  | union (a b : Class)
  | diff (a b : Class)

namespace Class

instance : Union Class := ⟨union⟩

instance : SDiff Class := ⟨diff⟩

def has : Class → Char → Bool
  | spans s, c => s.any (·.contains c.toNat)
  | union a b, c => a.has c || b.has c
  | diff a b, c => a.has c && !b.has c

def all : Class := spans [⟨0, 0x10ffff, 1⟩]

def ascii : Class := spans [⟨0, 0x7f, 1⟩]

theorem has_union (a b : Class) (c : Char) : (a ∪ b).has c = (a.has c || b.has c) := rfl

theorem has_diff (a b : Class) (c : Char) : (a \ b).has c = (a.has c && !b.has c) := rfl

def named? (classes : List (List String × Class)) (name : String) : Option Class :=
  (classes.find? (·.1.contains name)).map (·.2)

end Class

end ResourceQuery.Unicode
