import Mathlib
import ResourceQuery.CommandLine
import ResourceQuery.Proofs.JsonDouble
import ResourceQuery.Proofs.ReadTerm
import ResourceQuery.Proofs.Rereading
import ResourceQuery.Proofs.TermJson

namespace ResourceQuery

open Outcome

namespace Json

theorem isFormed_single {key : String} {j : Json} (h : j.IsFormed) :
    (object [(key, j)]).IsFormed := isFormed_object (by simp) (by simpa using h)

theorem isFormed_pair {k l : String} {x y : Json} (hk : k < l) (hx : x.IsFormed)
    (hy : y.IsFormed) : (object [(k, x), (l, y)]).IsFormed :=
  isFormed_object (by simpa using hk) (by simpa using ⟨hx, hy⟩)

theorem isFormed_bool (b : Bool) : (bool b).IsFormed := isFormed_plain trivial rfl

theorem isFormed_string (s : String) : (string s).IsFormed := isFormed_plain trivial rfl

end Json

theorem Value.isFormed_toJson {v : Value} (h : v.IsRead) : v.toJson.IsFormed := by
  cases v with
  | null => exact Json.isFormed_plain trivial rfl
  | boolean b => exact Json.isFormed_bool b
  | string s => exact Json.isFormed_string s
  | undefined => exact Json.isFormed_single (Json.isFormed_bool true)
  | date _ => exact Json.isFormed_single (Json.isFormed_string _)
  | pattern _ =>
      exact Json.isFormed_pair (by decide) (Json.isFormed_string _) (Json.isFormed_bool _)
  | number x =>
      rw [Value.toJson]
      split
      · exact ⟨trivial, by simp [Json.numbers, Json.Number.InRange]⟩
      · exact Json.isFormed_single (Json.isFormed_string _)
  | json j => exact Json.isFormed_single h.isFormed

namespace Term

mutual

theorem isFormed_toJson (t : Term) (h : ∀ v ∈ t.leaves, v.IsRead) : t.toJson.IsFormed := by
  match t with
  | call name args =>
      rw [toJson]
      exact Json.isFormed_pair (by decide) (Json.isFormed_array (isFormed_allToJson args h))
        (Json.isFormed_string name)
  | leaf v => exact Value.isFormed_toJson (h v (by simp [leaves]))
  | list items => exact Json.isFormed_array (isFormed_allToJson items h)

theorem isFormed_allToJson (ts : List Term) (h : ∀ v ∈ leavesAll ts, v.IsRead) :
    ∀ j ∈ allToJson ts, j.IsFormed := by
  match ts with
  | [] => simp [allToJson]
  | t :: ts =>
      simp only [leavesAll, List.mem_append, or_imp, forall_and] at h
      exact List.forall_mem_cons.2 ⟨isFormed_toJson t h.1, isFormed_allToJson ts h.2⟩

end

end Term

namespace Json

theorem reread_plain {room : Nat} {j k : Json} (hn : j.numbers = []) (h : reread room j = .ok k) :
    k = j := by
  have hj := reread_eq_self_iff.2 ⟨depth_le_of_reread h, by simp [hn]⟩
  exact Except.ok.inj (h.symm.trans hj)

theorem exists_of_reread_array {room : Nat} {items : List Json} {k : Json}
    (h : reread room (.array items) = .ok k) :
    ∃ r ks, items.mapM (reread r) = .ok ks ∧ k = .array ks := by
  cases room with
  | zero => simp [reread] at h
  | succ r =>
      obtain ⟨ks, hk, rfl⟩ := map_eq_ok.1 h
      exact ⟨r, ks, hk, rfl⟩

theorem exists_of_reread_object {room : Nat} {members : List (String × Json)} {k : Json}
    (h : reread room (.object members) = .ok k) :
    ∃ r ms, List.Forall₂ (fun m n => inMember (reread r) m = .ok n) members ms ∧
      k = .object ms := by
  cases room with
  | zero => simp [reread] at h
  | succ r =>
      obtain ⟨ms, hm, rfl⟩ := map_eq_ok.1 h
      exact ⟨r, ms, mapM_eq_ok.1 hm, rfl⟩

theorem exists_of_reread_single {room : Nat} {key : String} {j k : Json}
    (h : reread room (.object [(key, j)]) = .ok k) :
    ∃ r x, reread r j = .ok x ∧ k = .object [(key, x)] := by
  obtain ⟨r, ms, hm, rfl⟩ := exists_of_reread_object h
  obtain ⟨m, _, hj, hnil, rfl⟩ := List.forall₂_cons_left_iff.1 hm
  obtain rfl := List.forall₂_nil_left_iff.1 hnil
  obtain ⟨x, hx, rfl⟩ := map_eq_ok.1 hj
  exact ⟨r, x, hx, rfl⟩

theorem exists_of_reread_call {room : Nat} {name : String} {items : List Json} {k : Json}
    (h : reread room (.object [("args", .array items), ("name", .string name)]) = .ok k) :
    ∃ r ks, items.mapM (reread r) = .ok ks ∧
      k = .object [("args", .array ks), ("name", .string name)] := by
  obtain ⟨r, ms, hm, rfl⟩ := exists_of_reread_object h
  obtain ⟨m, _, ha, ht, rfl⟩ := List.forall₂_cons_left_iff.1 hm
  obtain ⟨n, _, hn, hnil, rfl⟩ := List.forall₂_cons_left_iff.1 ht
  obtain rfl := List.forall₂_nil_left_iff.1 hnil
  obtain ⟨x, hx, rfl⟩ := map_eq_ok.1 ha
  obtain ⟨y, hy, rfl⟩ := map_eq_ok.1 hn
  obtain ⟨s, ks, hk, rfl⟩ := exists_of_reread_array hx
  obtain rfl := reread_plain rfl hy
  exact ⟨s, ks, hk, rfl⟩

end Json

namespace Term

/-- Where the text of the JSON form is read, it stands for a term, and for the same one only if the
form itself has been read. -/
def Returns (t : Term) (k : Json) : Prop := ∃ u, ofJson k = .ok u ∧ (u = t → k = t.toJson)

theorem returns_plain {v : Value} {room : Nat} {k : Json} (hv : v.toJson.numbers = [])
    (hr : ofJson v.toJson = .ok (leaf v)) (h : Json.reread room v.toJson = .ok k) :
    Returns (leaf v) k := by
  obtain rfl := Json.reread_plain hv h
  exact ⟨_, hr, fun _ => rfl⟩

theorem returns_leaf {v : Value} (hv : v.IsRead) {room : Nat} {k : Json}
    (h : Json.reread room v.toJson = .ok k) : Returns (leaf v) k := by
  have hplain (hn : v.toJson.numbers = []) (hx : ∀ x, v = .number x → x.isNaN = false) :
      Returns (leaf v) k := returns_plain hn (ofJson_leaf hx) h
  cases v with
  | null | boolean _ | string _ | undefined | date _ | pattern _ => exact hplain rfl (by simp)
  | number x =>
      cases hf : x.isFinite with
      | false =>
          have hj : (Value.number x).toJson.numbers = [] := by
            rw [Value.toJson, hf]
            rfl
          exact hplain hj fun y hy => Value.number.inj hy ▸ hv
      | true =>
          rw [Value.toJson, if_pos hf, Json.reread.eq_def] at h
          obtain ⟨m, hm, rfl⟩ := map_eq_ok.1 h
          obtain ⟨y, rfl⟩ := Json.Number.exists_of_reread_double hm
          refine ⟨leaf (.number y), rfl, fun hy => ?_⟩
          obtain rfl := Value.number.inj (Term.leaf.inj hy)
          rw [toJson, Value.toJson, if_pos hf]
  | json j =>
      obtain ⟨r, x, -, rfl⟩ := Json.exists_of_reread_single h
      refine ⟨leaf (.json x), rfl, fun hx => ?_⟩
      obtain rfl := Value.json.inj (Term.leaf.inj hx)
      rfl

mutual

theorem returns_reread (t : Term) (hl : ∀ v ∈ t.leaves, v.IsRead) {room : Nat} {k : Json}
    (h : Json.reread room t.toJson = .ok k) : Returns t k := by
  match t with
  | call name args =>
      obtain ⟨r, ks, hk, rfl⟩ := Json.exists_of_reread_call h
      obtain ⟨us, hu, hs⟩ := returns_rereadAll args hl hk
      refine ⟨call name us, by rw [ofJson_call, hu]; rfl, fun he => ?_⟩
      rw [toJson, hs (Term.call.inj he).2]
  | leaf v => exact returns_leaf (hl v (by simp [leaves])) h
  | list items =>
      obtain ⟨r, ks, hk, rfl⟩ := Json.exists_of_reread_array h
      obtain ⟨us, hu, hs⟩ := returns_rereadAll items hl hk
      refine ⟨list us, by rw [ofJson, hu]; rfl, fun he => ?_⟩
      rw [toJson, hs (Term.list.inj he)]

theorem returns_rereadAll (ts : List Term) (hl : ∀ v ∈ leavesAll ts, v.IsRead) {room : Nat}
    {ks : List Json} (h : (allToJson ts).mapM (Json.reread room) = .ok ks) :
    ∃ us, allOfJson ks = .ok us ∧ (us = ts → ks = allToJson ts) := by
  match ts with
  | [] =>
      obtain rfl := Except.ok.inj h
      exact ⟨[], rfl, fun _ => rfl⟩
  | t :: ts =>
      simp only [leavesAll, List.mem_append, or_imp, forall_and] at hl
      rw [allToJson, List.mapM_cons] at h
      obtain ⟨k, hk, h⟩ := bind_eq_ok.1 h
      obtain ⟨ks, hks, h⟩ := bind_eq_ok.1 h
      obtain rfl := Except.ok.inj h
      obtain ⟨u, hu, he⟩ := returns_reread t hl.1 hk
      obtain ⟨us, hus, hes⟩ := returns_rereadAll ts hl.2 hks
      refine ⟨u :: us, by rw [allOfJson, hu, ok_bind, hus]; rfl, fun hc => ?_⟩
      obtain ⟨hx, hxs⟩ := List.cons.inj hc
      rw [allToJson, he hx, hes hxs]

end

end Term

structure Json.IsReturned (j : Json) : Prop where
  depth : j.depth ≤ Json.maxDepth
  doubles : ∀ x, .double x ∈ j.numbers → (Json.Number.double x).ReadsBack

namespace Json

theorem IsFormed.rereads {j : Json} (h : j.IsFormed) : ∀ n ∈ j.numbers, n.Rereads := fun n hn =>
  (h.numbers n hn).rereads

theorem IsFormed.isReturned_iff {j : Json} (h : j.IsFormed) :
    j.IsReturned ↔ reread maxDepth j = .ok j := by
  rw [reread_eq_self_iff]
  constructor
  · rintro ⟨hd, hx⟩
    refine ⟨hd, fun n hn => ((h.numbers n hn).readsBack ?_).reread⟩
    rintro x rfl
    exact hx x hn
  · rintro ⟨hd, hn⟩
    exact ⟨hd, fun x hx => (h.rereads _ hx).readsBack (hn _ hx)⟩

end Json

namespace Call

theorem exists_ofJson_of_reread {c : Call} (hl : ∀ v ∈ c.toTerm.leaves, v.IsRead) {room : Nat}
    {k : Json} (h : Json.reread room c.toJson = .ok k) :
    ∃ d, ofJson k = .ok d ∧ (d = c → k = c.toJson) := by
  obtain ⟨r, ks, hk, rfl⟩ := Json.exists_of_reread_call h
  obtain ⟨us, hu, hs⟩ := Term.returns_rereadAll c.args hl hk
  refine ⟨⟨c.name, us⟩, ofJson_eq_ok.2 ?_, fun he => ?_⟩
  · rw [Term.ofJson_call, hu]
    rfl
  · rw [hs (congrArg Call.args he)]
    rfl

theorem ofJsonText_text_eq (c : Call) :
    ofJsonText c.toJson.text = (Json.read c.toJson.write).mapError .json >>= ofJson := by
  rw [ofJsonText, Json.text, String.toList_ofList]
  cases Json.read c.toJson.write <;> rfl

theorem ofJsonText_text {c : Call} (hl : ∀ v ∈ c.toTerm.leaves, v.IsRead) :
    (ofJsonText c.toJson.text = .ok c ↔ c.toJson.IsReturned) ∧
    (Json.maxDepth < c.toJson.depth → ∃ e, ofJsonText c.toJson.text = .error e) ∧
    ∀ e, ofJsonText c.toJson.text = .error e →
      ∃ f : Json.Fault, e = .json f ∧ (f.cause = .tooDeep ∨ f.cause = .numberOutOfRange) := by
  have hf : c.toJson.IsFormed := c.toTerm.isFormed_toJson hl
  have hread := Json.mapError_read_write hf.sorted hf.rereads
  rw [ofJsonText_text_eq, hf.isReturned_iff]
  cases hr : Json.read c.toJson.write with
  | error f =>
      have hreread : Json.reread Json.maxDepth c.toJson = .error f.cause := by
        rw [← hread, hr]
        rfl
      rw [hreread, Except.mapError, error_bind]
      refine ⟨by simp, fun _ => ⟨_, rfl⟩, fun e he => ⟨f, (Except.error.inj he).symm, ?_⟩⟩
      exact Json.reread_error hreread
  | ok k =>
      have hreread : Json.reread Json.maxDepth c.toJson = .ok k := by
        rw [← hread, hr]
        rfl
      obtain ⟨d, hd, hback⟩ := exists_ofJson_of_reread hl hreread
      rw [hreread, Except.mapError, ok_bind, hd]
      refine ⟨⟨fun h => ?_, fun h => ?_⟩, fun hdeep => ?_, by simp⟩
      · rw [hback (Except.ok.inj h)]
      · obtain rfl := Except.ok.inj h
        have hc := ofJson_eq_ok.2 (c.toTerm.ofJson_toJson fun x hx => hl _ hx)
        exact hd.symm.trans hc
      · exact absurd (Json.depth_le_of_reread hreread) (by omega)

end Call

namespace Command

theorem run_serialize (input line : String) :
    run input (.serialize (some line)) = (Call.ofJsonText line).map Call.text := rfl

/-- The program reads its own output: the line that a query is printed as stands for the same call
if its lists and objects are within the limit of the JSON reader and its doubles are read back, and
only then. It is rejected where a list or an object is too deep or a number out of range, and
nowhere else. -/
theorem run_serialize_parse {query : String} {c : Call} (h : Query.parse query = .ok c)
    (input : String) :
    let line := c.toJson.text
    run input (.parse query false) = .ok line ∧
    (Call.ofJsonText line = .ok c ↔ c.toJson.IsReturned) ∧
    (c.toJson.IsReturned → run input (.serialize (some line)) = .ok c.text) ∧
    (Json.maxDepth < c.toJson.depth → ∃ e, run input (.serialize (some line)) = .error e) ∧
    ∀ e, run input (.serialize (some line)) = .error e →
      ∃ f : Json.Fault, e = .json f ∧ (f.cause = .tooDeep ∨ f.cause = .numberOutOfRange) := by
  intro line
  have hread := Query.isReadFrom_read h
  have hl : ∀ v ∈ c.toTerm.leaves, v.IsRead := fun v hv =>
    have ⟨s, hs⟩ := hread.toTerm.leaves v hv
    TagTable.isRead_read hs
  obtain ⟨hiff, hdeep, hfault⟩ := Call.ofJsonText_text hl
  refine ⟨by rw [run, h]; rfl, hiff, fun hr => ?_, fun hd => ?_, fun e he => ?_⟩
  · rw [run_serialize, hiff.2 hr]
    rfl
  · obtain ⟨e, he⟩ := hdeep hd
    exact ⟨e, map_eq_error.2 he⟩
  · exact hfault e (map_eq_error.1 he)

theorem run_serialize_parse_nested :
    Query.parse "a(b())" = .ok ⟨"a", [.call "b" []]⟩ ∧
      run "" (.serialize (some (Call.toJson ⟨"a", [.call "b" []]⟩).text)) = .ok "a(b())" := by
  have h : Query.parse "a(b())" = .ok ⟨"a", [.call "b" []]⟩ := by cbv
  have hr : (Call.toJson ⟨"a", [.call "b" []]⟩).IsReturned := by
    refine ⟨by decide, fun x hx => ?_⟩
    have hn : (Call.toJson ⟨"a", [.call "b" []]⟩).numbers = [] := by cbv
    simp [hn] at hx
  have ht : Call.text ⟨"a", [.call "b" []]⟩ = "a(b())" := by cbv
  exact ⟨h, ht ▸ (run_serialize_parse h "").2.2.1 hr⟩

/-- 64 calls around one another are a query. They have 128 levels in JSON, which are too many. -/
theorem run_serialize_parse_deep :
    let c : Call := ⟨"a", (fun args => [Term.call "a" args])^[63] []⟩
    Query.parse c.text = .ok c ∧
      ∃ f : Json.Fault, run "" (.serialize (some c.toJson.text)) = .error (.json f) := by
  intro c
  have hnames : ∀ n ∈ c.toTerm.names, IsName n := by decide
  have hleaves : c.toTerm.leaves = [] := by decide
  have hheight : 2 * c.toTerm.height ≤ Chunk.defaultLimit := by decide +kernel
  have hread : Query.parse c.text = .ok ⟨c.name, Term.mapAllLeaves id c.args⟩ :=
    Query.read_text_mapLeaves hnames (by simp [hleaves]) hheight
  rw [Term.mapAllLeaves_eq_self (f := id) c.args fun _ _ => rfl] at hread
  obtain ⟨-, hdeep, hfault⟩ := @Call.ofJsonText_text c (by simp [hleaves])
  obtain ⟨e, he⟩ := hdeep (by decide +kernel)
  obtain ⟨f, rfl, -⟩ := hfault e he
  refine ⟨hread, f, ?_⟩
  rw [run_serialize, he]
  rfl

end Command

end ResourceQuery
