import ResourceQuery.Proofs.JsonRead
import ResourceQuery.Proofs.JsonReread
import ResourceQuery.Proofs.LeafShape
import ResourceQuery.Proofs.NumeralSpelling
import ResourceQuery.Proofs.TimestampText

namespace ResourceQuery

open Outcome

namespace Value

def IsRead : Value → Prop
  | .number x => x.isNaN = false
  | .json j => j.IsRead Json.maxDepth
  | _ => True

end Value

namespace Leaf

theorem isRead_word? {text : String} {v : Value} (h : word? text = some v) : v.IsRead := by
  unfold word? at h
  split at h <;> simp only [Option.some.injEq, reduceCtorEq] at h <;> subst h
  case h_5 | h_6 => exact Binary64.isNaN_infinity _
  all_goals trivial

theorem isRead_auto {text : String} {v : Value} (h : auto text = .ok v) : v.IsRead := by
  cases isAuto_of_auto h with
  | word hw => exact isRead_word? hw
  | number hx => exact Numeral.isNaN_of_read? hx
  | string | quoted => trivial

theorem isRead_number {text : String} {v : Value} (h : number text = .ok v) : v.IsRead := by
  obtain ⟨x, hx, rfl⟩ := map_eq_ok.1 h
  unfold numeral at hx
  split at hx
  · rename_i y hy
    obtain rfl := Except.ok.inj hx
    exact Numeral.isNaN_of_read? hy
  · simp at hx

theorem isRead_date {text : String} {v : Value} (h : date text = .ok v) : v.IsRead := by
  unfold date at h
  split at h
  · exact Except.ok.inj h ▸ trivial
  · simp at h

theorem date_write (t : Calendar.Instant) :
    date (String.ofList t.write) = .ok (.date t) := by
  rw [date, String.toList_ofList, t.ofText?_write]

theorem isRead_epoch {text : String} {v : Value} (h : epoch text = .ok v) : v.IsRead := by
  unfold epoch at h
  simp only at h
  split at h
  · exact Except.ok.inj h ▸ trivial
  · simp at h

theorem isRead_pattern {caseSensitive : Bool} {text : String} {v : Value}
    (h : pattern caseSensitive text = .ok v) : v.IsRead := by
  obtain ⟨s, -, h⟩ := bind_eq_ok.1 h
  split at h
  · exact Except.ok.inj h ▸ trivial
  · simp at h

theorem isRead_json {text : String} {v : Value} (h : json text = .ok v) : v.IsRead := by
  obtain ⟨s, -, h⟩ := bind_eq_ok.1 h
  split at h
  · rename_i j hj
    obtain rfl := Except.ok.inj h
    exact Json.isRead_read hj
  · simp at h

theorem isRead_string {text : String} {v : Value} (h : string text = .ok v) : v.IsRead := by
  obtain ⟨s, -, rfl⟩ := map_eq_ok.1 h
  trivial

theorem isRead_boolean {text : String} {v : Value} (h : boolean text = .ok v) : v.IsRead :=
  Except.ok.inj h ▸ trivial

end Leaf

namespace TagTable

theorem isRead_of_mem {tag text : String} {r : Leaf.Reader} {v : Value}
    (h : (tag, r) ∈ standard.entries) (hv : r text = .ok v) : v.IsRead := by
  simp only [standard, List.mem_cons, List.not_mem_nil, or_false, Prod.mk.injEq] at h
  rcases h with ⟨-, rfl⟩ | ⟨-, rfl⟩ | ⟨-, rfl⟩ | ⟨-, rfl⟩ | ⟨-, rfl⟩ | ⟨-, rfl⟩ | ⟨-, rfl⟩ |
    ⟨-, rfl⟩ | ⟨-, rfl⟩ | ⟨-, rfl⟩ | ⟨-, rfl⟩
  · exact Leaf.isRead_number hv
  · exact Leaf.isRead_epoch hv
  · exact Leaf.isRead_date hv
  · exact Leaf.isRead_date hv
  · exact Leaf.isRead_boolean hv
  · exact Leaf.isRead_string hv
  · exact Leaf.isRead_pattern hv
  · exact Leaf.isRead_pattern hv
  · exact Leaf.isRead_json hv
  · exact Leaf.isRead_auto hv
  · exact Leaf.isRead_auto hv

theorem exists_mem_of_find? {t : TagTable} {tag : String} {r : Leaf.Reader}
    (h : t.find? tag = some r) : ∃ tag', (tag', r) ∈ t.entries := by
  obtain ⟨⟨tag', r'⟩, hf, rfl⟩ := Option.map_eq_some_iff.1 h
  exact ⟨tag', List.mem_of_find?_eq_some hf⟩

theorem exists_mem_of_get? {t : TagTable} {tag : String} {r : Leaf.Reader}
    (h : t.get? tag = some r) : ∃ tag', (tag', r) ∈ t.entries := by
  rw [get?, Option.or_eq_some_iff] at h
  rcases h with h | ⟨-, h⟩
  · exact exists_mem_of_find? h
  · exact exists_mem_of_find? h

theorem isRead_read {text : String} {v : Value} (h : standard.read text = .ok v) : v.IsRead := by
  unfold read at h
  split at h
  · rw [standard_auto, mapError_eq_ok] at h
    exact Leaf.isRead_auto h
  · split at h
    · simp at h
    · rename_i r hr
      obtain ⟨tag, hm⟩ := exists_mem_of_get? hr
      exact isRead_of_mem hm (mapError_eq_ok.1 h)

theorem writeValue_of_auto {v : Value} (hs : ∀ s, v ≠ .string s)
    (h : Leaf.auto v.plain = .ok v) (hv : v.same v) : standard.writeValue v = v.plain := by
  have hr : standard.readsBack v = true := by
    rw [readsBack, standard_auto, h]
    exact hv
  cases v with
  | string s => exact absurd rfl (hs s)
  | null => rfl
  | undefined | boolean _ | number _ | date _ | pattern _ | json _ =>
      simp only [writeValue, hr]
      rfl

theorem writeValue_of_not_isUntagged {v : Value} (h : ¬Leaf.IsUntagged v) :
    standard.writeValue v = v.tagged := by
  have hr : standard.readsBack v = false :=
    Bool.eq_false_iff.2 fun hr => h (isUntagged_of_readsBack hr)
  cases v with
  | string _ | null => exact absurd trivial h
  | undefined | boolean _ | number _ | date _ | pattern _ | json _ =>
      simp only [writeValue, hr]
      rfl

theorem read_plain {v : Value} (hs : ∀ s, v ≠ .string s) (h : Leaf.auto v.plain = .ok v)
    (hv : v.same v) (hp : ∀ c ∈ v.plain.toList, Percent.isPlain c) :
    standard.read (standard.writeValue v) = .ok v := by
  have hc : ':' ∉ v.plain.toList := fun hc => absurd (hp _ hc) (by decide)
  have hb : '\\' ∉ v.plain.toList := fun hc => absurd (hp _ hc) (by decide)
  rw [writeValue_of_auto hs h hv, read_untagged hc hb, standard_auto, h]
  rfl

theorem auto_write {x : Binary64} (hf : x.isFinite)
    (h : Numeral.read? (Numeral.write x).toList = some x) :
    Leaf.auto (Numeral.write x) = .ok (.number x) := by
  have hw : Leaf.word? (Numeral.write x) = none := by
    have hword : ∀ s ∈ ["true", "false", "null", "undefined"], Numeral.write x ≠ s := by
      intro s hs he
      have hn : Numeral.read? s.toList = none :=
        (show ∀ s ∈ ["true", "false", "null", "undefined"], Numeral.read? s.toList = none by
          decide) s hs
      simp [he, hn] at h
    have hinf (b : Bool) (s : String) (hs : Numeral.read? s.toList = some (.infinity b)) :
        Numeral.write x ≠ s := by
      intro he
      rw [he, hs, Option.some.injEq] at h
      rw [← h] at hf
      revert hf
      cases b <;> decide
    unfold Leaf.word?
    split
    case h_7 => rfl
    case h_5 he => exact absurd he (hinf false _ rfl)
    case h_6 he => exact absurd he (hinf true _ rfl)
    all_goals
      rename_i he
      exact absurd he (hword _ (by decide))
  simp only [Leaf.auto, hw, h]

theorem read_writeValue_date (t : Calendar.Instant) :
    standard.read (standard.writeValue (.date t)) = .ok (.date t) := by
  have hb : '\\' ∉ (String.ofList t.write).toList := by
    rw [String.toList_ofList]
    exact fun h => absurd (t.isLeafChar_write _ h) (by decide)
  rw [writeValue_of_not_isUntagged (v := .date t) id]
  exact (@read_tagged standard "date" _ Leaf.date (by decide) (by decide) rfl hb).trans
    (by rw [Leaf.date_write]; rfl)

/-- A JSON leaf is read as JSON from the text that the value is written as, whatever there is in
its strings. -/
theorem read_writeValue_json_eq (j : Json) : standard.read (standard.writeValue (.json j)) =
    match Json.read j.write with
    | .ok k => .ok (.json k)
    | .error f => .error (.conversion (.json ("'" ++ j.text ++ "'") f)) := by
  have htext : (Value.json j).tagged =
      "json" ++ ":" ++ String.ofList (['\''] ++ (Percent.encode j.text).toList ++ ['\'']) := by
    rw [← String.toList_inj]
    simp only [Value.tagged, Value.plain, String.toList_append, String.toList_ofList,
      List.append_assoc]
    rfl
  have hb : '\\' ∉
      (String.ofList (['\''] ++ (Percent.encode j.text).toList ++ ['\''])).toList := by
    simp [backslash_notMem_encode, -Percent.toList_encode]
  have hdecode :=
    Percent.decode?_enclosed (x := ['\'']) (y := ['\'']) (by decide) (by decide) j.text
  have hquoted : Leaf.quoted? (['\''] ++ j.text.toList ++ ['\'']) = some j.write := by
    simp [Leaf.quoted?, Json.text]
  have hquotes : String.ofList (['\''] ++ j.text.toList ++ ['\'']) = "'" ++ j.text ++ "'" := by
    simp [← String.toList_inj]
  have hj : Leaf.json (String.ofList (['\''] ++ (Percent.encode j.text).toList ++ ['\''])) =
      match Json.read j.write with
      | .ok k => .ok (.json k)
      | .error f => .error (.json ("'" ++ j.text ++ "'") f) := by
    rw [Leaf.json, Leaf.decoded, hdecode, ok_bind, String.toList_ofList, hquoted,
      Option.getD_some, hquotes]
    cases Json.read j.write <;> rfl
  rw [writeValue_of_not_isUntagged (v := .json j) id, htext]
  refine (read_tagged (r := Leaf.json) (by decide) (by decide) rfl hb).trans ?_
  rw [hj]
  cases Json.read j.write <;> rfl

theorem read_writeValue_json {j : Json} (hs : j.IsSorted) (hn : ∀ n ∈ j.numbers, n.ReadsBack)
    (hd : j.depth ≤ Json.maxDepth) :
    standard.read (standard.writeValue (.json j)) = .ok (.json j) := by
  rw [read_writeValue_json_eq, Json.read_write hs hn hd]

theorem same_number {x : Binary64} (h : x.isNaN = false) : (Value.number x).same (.number x) := by
  simp [Value.same, Binary64.numEq, h]

theorem read_writeValue_number {x : Binary64} (hn : x.isNaN = false)
    (h : x.isFinite → Numeral.read? (Numeral.write x).toList = some x) :
    standard.read (standard.writeValue (.number x)) = .ok (.number x) := by
  refine read_plain (by simp) ?_ (same_number hn) (Numeral.isPlain_write x)
  cases hf : x.isFinite with
  | true => exact auto_write hf (h hf)
  | false =>
      rw [Binary64.eq_infinity hn hf]
      cases x.isNegative <;> rfl

/-- What has been read is written so that it is read again. Of a double it is only asked that
its shortest decimal form is read as the double. -/
theorem read_writeValue {v : Value} (h : v.IsRead)
    (hnum : ∀ x, v = .number x → x.isFinite →
      Numeral.read? (Numeral.write x).toList = some x)
    (hjson : ∀ j, v = .json j → ∀ x, .double x ∈ j.numbers →
      (Json.Number.double x).ReadsBack) :
    standard.read (standard.writeValue v) = .ok v := by
  cases v with
  | null => exact read_plain (by simp) rfl rfl (by decide)
  | undefined => exact read_plain (by simp) rfl rfl (by decide)
  | boolean b => cases b <;> exact read_plain (by simp) rfl rfl (by decide)
  | number x => exact read_writeValue_number h (hnum x rfl)
  | string s => exact read_writeValue_string s
  | date t => exact read_writeValue_date t
  | pattern p => exact read_writeValue_pattern p
  | json j =>
      refine read_writeValue_json h.sorted (fun n hn => ?_) h.depth
      refine (h.numbers n hn).readsBack ?_
      rintro x rfl
      exact hjson j rfl x hn

/-- A JSON value with integers for its numbers is read back up to the depth that JSON texts may
have, and from no greater one. -/
theorem read_writeValue_json_iff {j : Json} (hs : j.IsSorted)
    (hn : ∀ n ∈ j.numbers, ∃ i : Int, n = .integer i ∧
      -0x8000000000000000 ≤ i ∧ i < 0x10000000000000000) :
    standard.read (standard.writeValue (.json j)) = .ok (.json j) ↔ j.depth ≤ 127 := by
  have hback : ∀ n ∈ j.numbers, n.ReadsBack := by
    intro n h
    obtain ⟨i, rfl, hi⟩ := hn n h
    exact Json.Number.readsBack_integer hi
  constructor
  · intro h
    rw [read_writeValue_json_eq] at h
    have hread : Json.read j.write = .ok j := by
      cases hr : Json.read j.write with
      | error f => simp [hr] at h
      | ok k => simpa [hr] using h
    have hreread := Json.mapError_read_write hs fun n hm => (hback n hm).rereads
    rw [hread] at hreread
    exact (Json.reread_eq_self_iff.1 hreread.symm).1
  · exact read_writeValue_json hs hback

theorem read_writeValue_json_iff_object :
    ∃ j : Json, j.text = "\x7b\"\\\"'\":\"%27\\\\:\",\"\u00e9\":" ++
        "[-9223372036854775808,18446744073709551615]\x7d" ∧
      j.IsSorted ∧ (∀ n ∈ j.numbers, ∃ i : Int, n = .integer i ∧
        -0x8000000000000000 ≤ i ∧ i < 0x10000000000000000) ∧
      standard.read (standard.writeValue (.json j)) = .ok (.json j) := by
  let j : Json := .object [("\"'", .string "%27\\:"),
    ("\u00e9", .array [.number (.integer (-0x8000000000000000)),
      .number (.integer 0xffffffffffffffff)])]
  have hs : j.IsSorted := ⟨by decide, trivial, ⟨trivial, trivial, trivial⟩, trivial⟩
  have hn : ∀ n ∈ j.numbers, ∃ i : Int, n = .integer i ∧
      -0x8000000000000000 ≤ i ∧ i < 0x10000000000000000 := by
    have hnumbers : j.numbers =
        [.integer (-0x8000000000000000), .integer 0xffffffffffffffff] := rfl
    rw [hnumbers]
    simp
  exact ⟨j, by decide, hs, hn, (read_writeValue_json_iff hs hn).2 (by decide)⟩

section

open Calendar

/-- The civil dates are those that are counted on day by day from the first of January 1970. With
them every instant in range is written as a date that is read again. -/
theorem read_writeValue_instant :
    Civil.ofDays 0 = ⟨1970, 1, 1⟩ ∧
      (∀ d, Civil.ofDays (d + 1) = (Civil.ofDays d).next) ∧
      ∀ n, -8334601228800000 ≤ n → n ≤ 8210266876799999 →
        ∃ t, Instant.ofMillis? n = some t ∧ t.millis = n ∧
          t.civil = Civil.ofDays (n / dayMillis) ∧
          (t.timeOfDay : Int) = n % dayMillis ∧
          Leaf.date (String.ofList t.write) = .ok (.date t) ∧
          standard.read (standard.writeValue (.date t)) = .ok (.date t) := by
  refine ⟨by decide, Civil.ofDays_succ, fun n hl hg => ?_⟩
  have ht : (((n % dayMillis).toNat : Nat) : Int) = n % dayMillis :=
    Int.toNat_of_nonneg (Int.emod_nonneg n (by decide))
  refine ⟨⟨n, hl, hg⟩, dif_pos ⟨hl, hg⟩, rfl, rfl, ht, ?_, ?_⟩
  · exact Leaf.date_write _
  · exact read_writeValue_date _

theorem read_writeValue_leapDay :
    ∃ t, Instant.ofMillis? (-62288265600001) = some t ∧
      t.write = "-000004-02-29T23:59:59.999Z".toList ∧
      Leaf.date "-000004-02-29T23:59:59.999Z" = .ok (.date t) ∧
      standard.read (standard.writeValue (.date t)) = .ok (.date t) := by
  obtain ⟨-, -, h⟩ := read_writeValue_instant
  obtain ⟨t, ht, hn, hc, hd, hdate, hread⟩ := h (-62288265600001) (by decide) (by decide)
  obtain rfl : t = ⟨-62288265600001, by decide, by decide⟩ := by
    obtain ⟨n, _, _⟩ := t
    exact Instant.mk.injEq .. |>.mpr hn
  have hw : (Instant.mk (-62288265600001) (by decide) (by decide)).write =
      "-000004-02-29T23:59:59.999Z".toList := by decide
  rw [hw] at hdate
  exact ⟨_, ht, hw, hdate, hread⟩

end

end TagTable

end ResourceQuery
