import ResourceQuery.Interchange
import ResourceQuery.Proofs.LeafRoundTrip
import ResourceQuery.Proofs.TermShape

namespace ResourceQuery

open Outcome

namespace Term

theorem ofJson_leaf {v : Value} (h : ∀ x, v = .number x → x.isNaN = false) :
    ofJson (leaf v).toJson = .ok (leaf v) := by
  rw [toJson]
  cases v with
  | null | undefined | boolean _ | string _ | json _ => rfl
  | number x =>
      cases hf : x.isFinite with
      | true =>
          rw [Value.toJson, hf]
          rfl
      | false =>
          rw [Binary64.eq_infinity (h x rfl) hf]
          cases x.isNegative <;> rfl
  | date t =>
      simp [Value.toJson, ofJson, Value.ofMembers, Json.find?, Json.string?, Leaf.date_write,
        Except.map, Except.mapError]
  | pattern p =>
      simp [Value.toJson, ofJson, Value.ofMembers, Json.find?, Json.string?, Json.bool?,
        p.ofSource_source, Except.map]

theorem ofJson_nan {x : Binary64} (h : x.isNaN) :
    ofJson (leaf (.number x)).toJson = .error (.query (.conversion (.number "number:NaN"))) := by
  have hf : x.isFinite = false := by
    simp only [Binary64.isNaN, Binary64.isFinite, decide_eq_true_eq, decide_eq_false_iff_not] at *
    omega
  have hw : Numeral.write x = "NaN" := by rw [Numeral.write, if_pos h]
  have hr : TagTable.standard.readsBack (.number x) = false := by
    rw [TagTable.readsBack, Value.plain, hw]
    rfl
  have ht : TagTable.standard.writeValue (.number x) = "number:NaN" := by
    simp only [TagTable.writeValue, hr, Value.tagged, Value.plain, hw]
    rfl
  rw [toJson, Value.toJson, hf, ht]
  rfl

theorem ofJson_call (name : String) (items : List Json) :
    ofJson (.object [("args", .array items), ("name", .string name)]) =
      (allOfJson items).map (call name) := by
  simp [ofJson, Json.find?, Json.string?, argsOfMembers]

mutual

theorem ofJson_toJson (t : Term) (h : ∀ x, .number x ∈ t.leaves → x.isNaN = false) :
    ofJson t.toJson = .ok t := by
  match t with
  | call name args =>
      rw [toJson, ofJson_call, allOfJson_allToJson args h]
      rfl
  | leaf v => exact ofJson_leaf fun x hx => h x (by simp [leaves, hx])
  | list items =>
      rw [toJson, ofJson, allOfJson_allToJson items h]
      rfl

theorem allOfJson_allToJson (ts : List Term)
    (h : ∀ x, .number x ∈ leavesAll ts → x.isNaN = false) :
    allOfJson (allToJson ts) = .ok ts := by
  match ts with
  | [] => rfl
  | t :: ts =>
      simp only [leavesAll, List.mem_append, or_imp, forall_and] at h
      rw [allToJson, allOfJson, ofJson_toJson t h.1, ok_bind, allOfJson_allToJson ts h.2]
      rfl

end

mutual

theorem isNaN_of_ofJson (t : Term) {u : Term} (h : ofJson t.toJson = .ok u) :
    ∀ x, .number x ∈ t.leaves → x.isNaN = false := by
  match t with
  | call name args =>
      rw [toJson, ofJson_call] at h
      obtain ⟨us, hu, -⟩ := map_eq_ok.1 h
      exact isNaN_of_allOfJson args hu
  | leaf v =>
      intro x hx
      obtain rfl : .number x = v := by simpa [leaves] using hx
      rw [Bool.eq_false_iff]
      intro hn
      simp [ofJson_nan hn] at h
  | list items =>
      rw [toJson, ofJson] at h
      obtain ⟨us, hu, -⟩ := map_eq_ok.1 h
      exact isNaN_of_allOfJson items hu

theorem isNaN_of_allOfJson (ts : List Term) {us : List Term}
    (h : allOfJson (allToJson ts) = .ok us) :
    ∀ x, .number x ∈ leavesAll ts → x.isNaN = false := by
  match ts with
  | [] => simp [leavesAll]
  | t :: ts =>
      rw [allToJson, allOfJson] at h
      obtain ⟨u, hu, h⟩ := bind_eq_ok.1 h
      obtain ⟨us, hs, -⟩ := bind_eq_ok.1 h
      simp only [leavesAll, List.mem_append, or_imp, forall_and]
      exact ⟨isNaN_of_ofJson t hu, isNaN_of_allOfJson ts hs⟩

end

end Term

theorem Call.ofJson_eq_ok {j : Json} {c : Call} :
    ofJson j = .ok c ↔ Term.ofJson j = .ok c.toTerm := by
  rw [ofJson, bind_eq_ok]
  constructor
  · rintro ⟨t, ht, h⟩
    cases t with
    | call name args => exact Except.ok.inj h ▸ ht
    | leaf v => simp at h
    | list items => simp at h
  · intro h
    exact ⟨_, h, rfl⟩

theorem Call.ofJson_toJson {c : Call} :
    ofJson c.toJson = .ok c ↔ Term.ofJson c.toTerm.toJson = .ok c.toTerm := ofJson_eq_ok

/-- Nothing gets lost on the way to JSON and back, whatever a term is made of. Only what is no
number has no form there. -/
theorem ofJson_toJson_iff :
    (∀ t : Term, Term.ofJson t.toJson = .ok t ↔
      ∀ x, .number x ∈ t.leaves → x.isNaN = false) ∧
    ∀ c : Call, Call.ofJson c.toJson = .ok c ↔
      ∀ x, .number x ∈ c.toTerm.leaves → x.isNaN = false := by
  have hterm (t : Term) : Term.ofJson t.toJson = .ok t ↔
      ∀ x, .number x ∈ t.leaves → x.isNaN = false :=
    ⟨t.isNaN_of_ofJson, t.ofJson_toJson⟩
  exact ⟨hterm, fun c => Call.ofJson_toJson.trans (hterm c.toTerm)⟩

example :
    let j : Json := .object [("args", .array []), ("name", .string "a")]
    Term.ofJson (Term.leaf (.json j)).toJson = .ok (.leaf (.json j)) := rfl

end ResourceQuery
