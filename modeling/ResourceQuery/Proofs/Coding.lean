import ResourceQuery.Percent
import ResourceQuery.Proofs.Replacing

namespace ResourceQuery.Percent

open Text

theorem decode?_eq_some_iff {s t : String} :
    decode? s = some t ↔ bytes s.toList = t.toList.flatMap String.utf8EncodeChar := by
  have hbytes : (⟨(bytes s.toList).toArray⟩ : ByteArray) = (bytes s.toList).toByteArray := by
    apply ByteArray.ext
    simp
  unfold decode? String.fromUTF8?
  constructor
  · intro h
    split at h
    · have ht : (⟨(bytes s.toList).toArray⟩ : ByteArray) = t.toByteArray :=
        congrArg String.toByteArray (Option.some.inj h)
      rw [← String.utf8Encode_toList, hbytes] at ht
      have hd := congrArg (fun b => b.data.toList) ht
      simpa [List.utf8Encode] using hd
    · simp at h
  · intro h
    have hv : (⟨(bytes s.toList).toArray⟩ : ByteArray) = t.toByteArray := by
      rw [hbytes, h, ← String.utf8Encode_toList, List.utf8Encode]
    rw [dif_pos (by rw [hv]; exact t.isValidUTF8), Option.some.injEq, ← String.toByteArray_inj]
    exact hv

theorem bytes_cons_of_ne {c : Char} (h : c ≠ '%') (s : List Char) :
    bytes (c :: s) = String.utf8EncodeChar c ++ bytes s := by
  rw [bytes.eq_def]
  split
  · contradiction
  · simp_all
  · simp_all

theorem bytes_percent {a b : Char} {v : UInt8} (h : byte? a b = some v) (s : List Char) :
    bytes ('%' :: a :: b :: s) = v :: bytes s := by
  rw [bytes, h]

theorem digitValue?_hexDigit : ∀ n < 16, digitValue? 16 (hexDigit n) = some n := by decide

theorem byte?_hexDigit (b : UInt8) :
    byte? (hexDigit (b.toNat / 16)) (hexDigit (b.toNat % 16)) = some b := by
  have hb := b.toNat_lt
  simp only [byte?, digitValue?_hexDigit _ (show b.toNat / 16 < 16 by omega),
    digitValue?_hexDigit _ (show b.toNat % 16 < 16 by omega), Option.bind_eq_bind,
    Option.bind_some, Option.pure_def, Option.some.injEq]
  rw [show b.toNat / 16 * 16 + b.toNat % 16 = b.toNat by omega]
  exact UInt8.ofNat_toNat

theorem bytes_flatMap_encodeByte (l : List UInt8) (s : List Char) :
    bytes (l.flatMap encodeByte ++ s) = l ++ bytes s := by
  induction l with
  | nil => rfl
  | cons b l ih =>
      rw [List.flatMap_cons, List.append_assoc, encodeByte]
      simp only [List.cons_append, List.nil_append]
      rw [bytes_percent (byte?_hexDigit b), ih]

theorem bytes_encodeByte (b : UInt8) : bytes (encodeByte b) = [b] := by
  have h := bytes_flatMap_encodeByte [b] []
  simpa [bytes] using h

theorem encodeByte_injective : Function.Injective encodeByte := by
  intro a b h
  have hb := congrArg bytes h
  rw [bytes_encodeByte, bytes_encodeByte] at hb
  exact List.head_eq_of_cons_eq hb

theorem ne_percent_of_isPlain {c : Char} (h : isPlain c) : c ≠ '%' :=
  ne_of_pos_of_neg h (by decide)

theorem bytes_encodeChar_append (c : Char) (s : List Char) :
    bytes (encodeChar c ++ s) = String.utf8EncodeChar c ++ bytes s := by
  unfold encodeChar
  split
  · rename_i h
    exact bytes_cons_of_ne (ne_percent_of_isPlain h) s
  · split
    · rename_i h
      subst h
      exact bytes_percent (by decide) s
    · split
      · rename_i h
        subst h
        exact bytes_percent (by decide) s
      · exact bytes_flatMap_encodeByte _ s

theorem bytes_flatMap_encodeChar (l s : List Char) :
    bytes (l.flatMap encodeChar ++ s) = l.flatMap String.utf8EncodeChar ++ bytes s := by
  induction l with
  | nil => rfl
  | cons c l ih =>
      rw [List.flatMap_cons, List.append_assoc, bytes_encodeChar_append, ih, List.flatMap_cons,
        List.append_assoc]

@[simp] theorem toList_encode (s : String) : (encode s).toList = s.toList.flatMap encodeChar := by
  simp [encode]

theorem decode?_encode (s : String) : decode? (encode s) = some s := by
  rw [decode?_eq_some_iff, toList_encode]
  simpa [bytes] using bytes_flatMap_encodeChar s.toList []

theorem decode?_enclosed {x y : List Char} (hx : ∀ c ∈ x, c ≠ '%') (hy : ∀ c ∈ y, c ≠ '%')
    (s : String) : decode? (String.ofList (x ++ (encode s).toList ++ y)) =
      some (String.ofList (x ++ s.toList ++ y)) := by
  have own {z : List Char} (hz : ∀ c ∈ z, c ≠ '%') (r : List Char) :
      bytes (z ++ r) = z.flatMap String.utf8EncodeChar ++ bytes r := by
    induction z with
    | nil => rfl
    | cons c z ih =>
        simp only [List.mem_cons, forall_eq_or_imp] at hz
        rw [List.cons_append, bytes_cons_of_ne hz.1, ih hz.2, List.flatMap_cons, List.append_assoc]
  have hend : bytes y = y.flatMap String.utf8EncodeChar := by
    simpa [bytes] using own hy []
  rw [decode?_eq_some_iff]
  simp [own hx, bytes_flatMap_encodeChar, hend]

theorem decode?_eq_self {s : String} (h : ∀ c ∈ s.toList, c ≠ '%') : decode? s = some s := by
  have hd := decode?_enclosed h (y := []) (by simp) ""
  simpa [encode] using hd

theorem length_bytes_le (s : List Char) :
    (bytes s).length ≤ (s.flatMap String.utf8EncodeChar).length := by
  fun_induction bytes s with
  | case1 => simp
  | case2 a b s v h ih =>
      have h1 := Char.utf8Size_pos a
      simp only [List.flatMap_cons, List.length_append, List.length_cons,
        String.length_utf8EncodeChar]
      omega
  | case3 a b s h ih =>
      simp only [List.flatMap_cons, List.length_append, String.length_utf8EncodeChar] at ih ⊢
      omega
  | case4 c s h ih =>
      simp only [List.flatMap_cons, List.length_append, String.length_utf8EncodeChar]
      omega

theorem encode_eq_self {s : String} (h : ∀ c ∈ s.toList, isPlain c) : encode s = s := by
  have plain {l : List Char} (hl : ∀ c ∈ l, isPlain c) : l.flatMap encodeChar = l := by
    induction l with
    | nil => rfl
    | cons c l ih =>
        simp only [List.mem_cons, forall_eq_or_imp] at hl
        rw [List.flatMap_cons, ih hl.2, encodeChar, if_pos hl.1]
        rfl
  rw [encode, plain h, String.ofList_toList]

theorem length_encodeChar {c : Char} (h : ¬isPlain c) : 1 < (encodeChar c).length := by
  unfold encodeChar
  rw [if_neg h]
  split
  · decide
  · split
    · decide
    · have hne : String.utf8EncodeChar c ≠ [] := fun h => by
        have hlength := String.length_utf8EncodeChar c
        rw [h, List.length_nil] at hlength
        exact absurd c.utf8Size_pos (hlength ▸ Nat.lt_irrefl 0)
      obtain ⟨b, l, hb⟩ := List.exists_cons_of_ne_nil hne
      rw [hb, List.flatMap_cons, List.length_append]
      exact Nat.lt_add_right _ (show 1 < 3 by decide)

theorem length_le_flatMap_encodeChar (l : List Char) :
    l.length ≤ (l.flatMap encodeChar).length := by
  induction l with
  | nil => exact Nat.le_refl 0
  | cons c l ih =>
      have hc : 1 ≤ (encodeChar c).length := by
        by_cases hp : isPlain c
        · rw [encodeChar, if_pos hp, List.length_singleton]
        · exact Nat.le_of_lt (length_encodeChar hp)
      rw [List.flatMap_cons, List.length_append, List.length_cons]
      omega

theorem encode_eq_self_iff {s : String} : encode s = s ↔ ∀ c ∈ s.toList, isPlain c := by
  refine ⟨fun h => ?_, encode_eq_self⟩
  rw [← String.toList_inj, toList_encode] at h
  have hlength := congrArg List.length h
  generalize s.toList = l at hlength
  clear h
  induction l with
  | nil => simp
  | cons c l ih =>
      have hl := length_le_flatMap_encodeChar l
      rw [List.flatMap_cons, List.length_append, List.length_cons] at hlength
      have hc : isPlain c := by
        by_contra hp
        have := length_encodeChar hp
        omega
      rw [encodeChar, if_pos hc, List.length_singleton] at hlength
      exact List.forall_mem_cons.2 ⟨hc, ih (by omega)⟩

theorem isPlain_hexDigit : ∀ n < 16, isPlain (hexDigit n) := by decide

/-- The code of a character is the character itself, or a row of percent signs with two digits
each, of which none is the sign of a comparison. -/
def IsCode (w : List Char) : Prop :=
  (∃ c, isPlain c ∧ w = [c]) ∨
    ∃ a b, isPlain a ∧ isPlain b ∧ ¬(a = '3' ∧ (b = 'C' ∨ b = 'E')) ∧ w = ['%', a, b]

theorem isSymbol_of_isPlain {a b : Char} (ha : isPlain a) (hb : isPlain b) :
    IsSymbol '%' 2 ['%', a, b] :=
  .marked (by simp [Ne.symm (ne_percent_of_isPlain ha), Ne.symm (ne_percent_of_isPlain hb)]) rfl

theorem IsCode.isSymbol {w : List Char} (h : IsCode w) : IsSymbol '%' 2 w := by
  rcases h with ⟨c, hc, rfl⟩ | ⟨a, b, ha, hb, -, rfl⟩
  · exact .single (ne_percent_of_isPlain hc)
  · exact isSymbol_of_isPlain ha hb

theorem isSymbol_encodeByte (b : UInt8) : IsSymbol '%' 2 (encodeByte b) := by
  have hb := b.toNat_lt
  exact isSymbol_of_isPlain (isPlain_hexDigit _ (by omega)) (isPlain_hexDigit _ (by omega))

theorem isCode_encodeByte {b : UInt8} (hl : b ≠ 0x3c) (hg : b ≠ 0x3e) : IsCode (encodeByte b) := by
  have hb := b.toNat_lt
  have hl' : b.toNat ≠ 0x3c := fun h => hl (UInt8.toNat_inj.1 h)
  have hg' : b.toNat ≠ 0x3e := fun h => hg (UInt8.toNat_inj.1 h)
  have sign : ∀ m < 16, ∀ n < 16, hexDigit m = '3' → hexDigit n = 'C' ∨ hexDigit n = 'E' →
      m * 16 + n = 0x3c ∨ m * 16 + n = 0x3e := by decide
  refine .inr ⟨_, _, isPlain_hexDigit _ (by omega), isPlain_hexDigit _ (by omega), ?_, rfl⟩
  rintro ⟨h1, h2⟩
  have := sign _ (by omega) _ (by omega) h1 h2
  omega

theorem utf8EncodeChar_range {c : Char} {b : UInt8} (h : b ∈ String.utf8EncodeChar c) :
    b.toNat = c.toNat ∨ 128 ≤ b.toNat := by
  unfold String.utf8EncodeChar at h
  simp only at h
  split at h
  · simp only [List.mem_cons, List.not_mem_nil, or_false] at h
    subst h
    left
    simp only [UInt8.toNat_ofNat']
    rw [Nat.mod_eq_of_lt (by omega)]
    rfl
  · right
    split at h
    · simp only [List.mem_cons, List.not_mem_nil, or_false] at h
      rcases h with rfl | rfl <;> simp only [UInt8.toNat_ofNat'] <;> omega
    · split at h
      · simp only [List.mem_cons, List.not_mem_nil, or_false] at h
        rcases h with rfl | rfl | rfl <;> simp only [UInt8.toNat_ofNat'] <;> omega
      · simp only [List.mem_cons, List.not_mem_nil, or_false] at h
        rcases h with rfl | rfl | rfl | rfl <;> simp only [UInt8.toNat_ofNat'] <;> omega

theorem eq_of_mem_utf8EncodeChar {a c : Char} (ha : a.toNat < 128)
    (h : UInt8.ofNat a.toNat ∈ String.utf8EncodeChar c) : a = c := by
  have hr := utf8EncodeChar_range h
  rw [UInt8.toNat_ofNat'] at hr
  apply Char.toNat_inj.1
  omega

theorem encodeChar_eq_flatten (c : Char) :
    ∃ ws : List (List Char), encodeChar c = ws.flatten ∧ ∀ w ∈ ws, IsCode w := by
  unfold encodeChar
  split
  · rename_i h
    exact ⟨[[c]], rfl, by simpa using .inl ⟨c, h, rfl⟩⟩
  · split
    · exact ⟨[['%', '3', 'c']], rfl, by
        simpa using .inr ⟨'3', 'c', by decide, by decide, by decide, rfl⟩⟩
    · split
      · exact ⟨[['%', '3', 'e']], rfl, by
          simpa using .inr ⟨'3', 'e', by decide, by decide, by decide, rfl⟩⟩
      · rename_i hl hg
        refine ⟨(String.utf8EncodeChar c).map encodeByte, List.flatMap_def, ?_⟩
        intro w hw
        obtain ⟨b, hb, rfl⟩ := List.mem_map.1 hw
        apply isCode_encodeByte
        · rintro rfl
          exact hl (eq_of_mem_utf8EncodeChar (a := '<') (by decide) hb).symm
        · rintro rfl
          exact hg (eq_of_mem_utf8EncodeChar (a := '>') (by decide) hb).symm

theorem encode_eq_flatten (s : List Char) :
    ∃ ws : List (List Char), s.flatMap encodeChar = ws.flatten ∧ ∀ w ∈ ws, IsCode w := by
  induction s with
  | nil => exact ⟨[], rfl, by simp⟩
  | cons c s ih =>
      obtain ⟨vs, hv, hvs⟩ := encodeChar_eq_flatten c
      obtain ⟨ws, hw, hws⟩ := ih
      refine ⟨vs ++ ws, by rw [List.flatMap_cons, hv, hw, List.flatten_append], ?_⟩
      intro w h
      exact (List.mem_append.1 h).elim (hvs w) (hws w)

theorem isPlain_or_percent_of_mem_encode {s : String} {c : Char} (h : c ∈ (encode s).toList) :
    isPlain c ∨ c = '%' := by
  obtain ⟨ws, hw, hws⟩ := encode_eq_flatten s.toList
  rw [toList_encode, hw] at h
  obtain ⟨w, hmem, hc⟩ := List.mem_flatten.1 h
  rcases hws w hmem with ⟨d, hd, rfl⟩ | ⟨a, b, ha, hb, -, rfl⟩
  · simp_all
  · simp only [List.mem_cons, List.not_mem_nil, or_false] at hc
    rcases hc with rfl | rfl | rfl
    · exact .inr rfl
    · exact .inl ha
    · exact .inl hb

theorem not_bracket_infix_encode {d : Char} (hd : d = 'C' ∨ d = 'E') (s : String) :
    ¬['%', '3', d] <:+: (encode s).toList := by
  obtain ⟨ws, hw, hws⟩ := encode_eq_flatten s.toList
  rw [toList_encode, hw]
  refine not_infix_flatten rfl fun w hm => ⟨(hws w hm).isSymbol, ?_⟩
  rintro rfl
  rcases hws _ hm with ⟨c, -, h⟩ | ⟨a, b, -, -, hab, h⟩
  · simp at h
  · simp only [List.cons.injEq, and_true, true_and] at h
    exact hab ⟨h.1.symm, h.2 ▸ hd⟩

end ResourceQuery.Percent
