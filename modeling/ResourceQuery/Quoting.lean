import ResourceQuery.Text

namespace ResourceQuery

open Text

inductive Quoting
  | plain
  | escaped
  | quoted (quote : Char)
  deriving DecidableEq, Repr

/-- What a character is in its place: part of the content as it stands, the escape character,
which is not part of the content, or open to any meaning the reader gives it. -/
inductive Role
  | literal
  | mark
  | structural
  deriving DecidableEq, Repr

namespace Quoting

/-- The role of a character, and the state after it. Escapes count only outside quotes. -/
def step (escape : Char) : Quoting → Char → Quoting × Role
  | escaped, _ => (plain, .literal)
  | quoted q, c => if c = q then (plain, .literal) else (quoted q, .literal)
  | plain, c =>
      if c = escape then (escaped, .mark)
      else if isQuote c then (quoted c, .literal)
      else (plain, .structural)

theorem step_structural {e c : Char} {q q' : Quoting} (h : step e q c = (q', .structural)) :
    q = plain ∧ q' = plain ∧ c ≠ e := by
  cases q with
  | plain =>
      simp only [step] at h
      split at h
      · simp at h
      · split at h
        · simp at h
        · simp_all
  | escaped => simp [step] at h
  | quoted q =>
      simp only [step] at h
      split at h <;> simp at h

end Quoting

end ResourceQuery
