import ResourceQuery.Pattern.Reading
import ResourceQuery.Pattern.Matching

namespace ResourceQuery

structure Pattern where
  source : String
  caseSensitive : Bool
  expr : Pattern.Expr
  reads : Pattern.read (!caseSensitive) source.toList = .ok expr

namespace Pattern

def ofSource (source : String) (caseSensitive : Bool) : Except Fault Pattern :=
  match h : read (!caseSensitive) source.toList with
  | .ok e => .ok ⟨source, caseSensitive, e, h⟩
  | .error f => .error f

def matchesIn (p : Pattern) (text : String) : Bool := p.expr.matchesIn text

theorem ext_source {p q : Pattern} (hs : p.source = q.source)
    (hc : p.caseSensitive = q.caseSensitive) : p = q := by
  obtain ⟨s, c, e, he⟩ := p
  obtain ⟨t, d, f, hf⟩ := q
  simp only at hs hc
  subst hs hc
  rw [he, Except.ok.injEq] at hf
  subst hf
  rfl

instance : DecidableEq Pattern := fun p q =>
  if h : p.source = q.source ∧ p.caseSensitive = q.caseSensitive then
    .isTrue (ext_source h.1 h.2)
  else .isFalse fun e => h (by simp [e])

end Pattern

end ResourceQuery
