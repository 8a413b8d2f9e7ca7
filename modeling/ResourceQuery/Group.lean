import ResourceQuery.Quoting
import ResourceQuery.SyntaxFault

namespace ResourceQuery

/-- A parenthesised group: what stands between its parentheses, the same without the escape
characters, and the text after it. -/
structure Group where
  raw : List Char
  content : List Char
  rest : List Char
  deriving DecidableEq, Repr

namespace Group

def keep (c : Char) (g : Group) : Group := ⟨c :: g.raw, c :: g.content, g.rest⟩

def hide (c : Char) (g : Group) : Group := ⟨c :: g.raw, g.content, g.rest⟩

/-- Reads up to the parenthesis that closes the group, with `inner` groups open within it. -/
def scan (escape : Char) : Quoting → Nat → List Char → Option Group
  | _, _, [] => none
  | q, inner, c :: s =>
      match q.step escape c with
      | (q, .literal) => (scan escape q inner s).map (keep c)
      | (q, .mark) => (scan escape q inner s).map (hide c)
      | (q, .structural) =>
          if c = '(' then (scan escape q (inner + 1) s).map (keep c)
          else if c = ')' then
            match inner with
            | 0 => some ⟨[], [], s⟩
            | inner + 1 => (scan escape q inner s).map (keep c)
          else (scan escape q inner s).map (keep c)

/-- The group that a text opens with. Its first character counts as the opening parenthesis,
whatever it is. -/
def ofText (escape : Char) (s : List Char) : Except SyntaxFault Group :=
  match scan escape .plain 0 (s.drop 1) with
  | some g => .ok g
  | none => .error (.unclosedGroup (String.ofList s))

theorem scan_eq_some_append {e : Char} {q : Quoting} {n : Nat} {s : List Char} {g : Group}
    (h : scan e q n s = some g) : s = g.raw ++ ')' :: g.rest := by
  induction s generalizing q n g with
  | nil => simp [scan] at h
  | cons c s ih =>
      have keep_case {q n} (h : (scan e q n s).map (keep c) = some g) :
          c :: s = g.raw ++ ')' :: g.rest := by
        obtain ⟨g', hg, rfl⟩ := Option.map_eq_some_iff.1 h
        rw [ih hg]
        simp [keep]
      unfold scan at h
      split at h
      · exact keep_case h
      · obtain ⟨g', hg, rfl⟩ := Option.map_eq_some_iff.1 h
        rw [ih hg]
        simp [hide]
      · split at h
        · exact keep_case h
        · split at h
          · split at h
            · rename_i hc _
              simp only [Option.some.injEq] at h
              simp [← h, hc]
            · exact keep_case h
          · exact keep_case h

theorem scan_raw_length {e : Char} {q : Quoting} {n : Nat} {s : List Char} {g : Group}
    (h : scan e q n s = some g) : g.raw.length < s.length := by
  rw [scan_eq_some_append h]
  simp

theorem scan_rest_length {e : Char} {q : Quoting} {n : Nat} {s : List Char} {g : Group}
    (h : scan e q n s = some g) : g.rest.length < s.length := by
  rw [scan_eq_some_append h]
  simp
  omega

def contentOf (escape : Char) (text : String) : Except SyntaxFault String :=
  (ofText escape text.toList).map (fun g => String.ofList g.content)

end Group

end ResourceQuery
