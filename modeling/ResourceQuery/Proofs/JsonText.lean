import Mathlib.Data.List.TakeWhile
import Mathlib.Data.String.Basic
import ResourceQuery.Json.Reading
import ResourceQuery.Json.Writing
import ResourceQuery.Proofs.Digits
import ResourceQuery.Proofs.Outcome

namespace ResourceQuery.Json

open Outcome Text

theorem digitValue?_hexDigit : ∀ n < 16, digitValue? 16 (hexDigit n) = some n := by decide

theorem readUnicode_control {n : Nat} (h : n < 32) (s : List Char) :
    readUnicode ('0' :: '0' :: hexDigit (n / 16) :: hexDigit (n % 16) :: s) =
      .ok (Char.ofNat n, s) := by
  have hz : digitValue? 16 '0' = some 0 := by decide
  have hu : readUnit ('0' :: '0' :: hexDigit (n / 16) :: hexDigit (n % 16) :: s) = .ok (n, s) := by
    have hn : (16 * (16 * (16 * (16 * 0 + 0) + 0) + n / 16) + n % 16) = n := by omega
    simp [readUnit, unit?, hz, digitValue?_hexDigit (n / 16) (by omega),
      digitValue?_hexDigit (n % 16) (by omega)]
    omega
  have hl : isLowSurrogate n = false := by simp [isLowSurrogate]; omega
  have hh : isHighSurrogate n = false := by simp [isHighSurrogate]; omega
  rw [readUnicode, hu, ok_bind]
  simp only [hl, hh]
  rfl

theorem readString_plain {c : Char} (hq : c ≠ '"') (hb : c ≠ '\\') (hc : 32 ≤ c.toNat)
    (s : List Char) : readString (c :: s) =
      (readString s).bind fun (text, rest) => .ok (c :: text, rest) := by
  rw [readString.eq_4 c s (fun h => hq h) (fun h => hb h), if_neg (by omega)]
  cases readString s <;> rfl

theorem readString_escape {x : List Char} {c : Char} {s : List Char}
    (h : readEscape x = .ok (c, s)) : readString ('\\' :: x) =
      (readString s).bind fun (text, rest) => .ok (c :: text, rest) := by
  rw [readString]
  split
  · rename_i e he
    simp [h] at he
  · rename_i d t hd
    rw [h, Except.ok.injEq, Prod.mk.injEq] at hd
    rw [← hd.1, ← hd.2]
    cases readString s <;> rfl

theorem readString_writeChar (c : Char) (s : List Char) :
    readString (writeChar c ++ s) =
      (readString s).bind fun (text, rest) => .ok (c :: text, rest) := by
  unfold writeChar
  split
  case h_8 hq hb _ _ _ _ _ =>
    split
    · rename_i hc
      have hu := readUnicode_control hc s
      rw [Char.ofNat_toNat] at hu
      exact readString_escape hu
    · rename_i hc
      exact readString_plain hq hb (by omega) s
  all_goals exact readString_escape rfl

theorem readString_write (s rest : List Char) :
    readString (s.flatMap writeChar ++ '"' :: rest) = .ok (s, rest) := by
  induction s with
  | nil => rw [List.flatMap_nil, List.nil_append, readString]
  | cons c s ih =>
      rw [List.flatMap_cons, List.append_assoc, readString_writeChar, ih]
      rfl

def Ends (rest : List Char) : Prop := ∀ c ∈ rest.head?, c = ',' ∨ c = ']' ∨ c = '\x7d'

def Number.InRange : Number → Prop
  | .integer n => -0x8000000000000000 ≤ n ∧ n < 0x10000000000000000
  | .double _ => True

theorem whole_eq {ds : List Char} {a : Nat}
    (h : Nat.ofDigitChars 10 ds a < 0x10000000000000000) :
    ds.foldl (fun s c =>
      if s.exponent = 0 ∧ s.fits c then ⟨s.push c, 0⟩ else ⟨s.significand, s.exponent + 1⟩)
      (⟨a, 0⟩ : Scan) = ⟨Nat.ofDigitChars 10 ds a, 0⟩ := by
  induction ds generalizing a with
  | nil => rfl
  | cons c ds ih =>
      rw [Nat.ofDigitChars_cons] at h ⊢
      have hle := Decimal.le_ofDigitChars ds (10 * a + (c.toNat - '0'.toNat))
      have hf : (⟨a, 0⟩ : Scan).fits c := decide_eq_true (Nat.lt_of_le_of_lt hle h)
      rw [List.foldl_cons, if_pos ⟨rfl, hf⟩]
      exact ih h

theorem scan_whole_digits {n : Nat} (h : n < 0x10000000000000000) :
    Scan.whole (Decimal.digits n) = ⟨n, 0⟩ := by
  have hd : Nat.ofDigitChars 10 (Decimal.digits n) 0 = n := Decimal.natOfDigits_digits n
  rw [Scan.whole, whole_eq (hd.symm ▸ h), hd]

theorem readTail_ends {negative : Bool} {s : Scan} {rest : List Char} (h : Ends rest) :
    readTail negative s rest = readTail.integral negative s rest := by
  cases rest with
  | nil => rfl
  | cons c t =>
      rcases h c rfl with rfl | rfl | rfl <;> rfl

theorem Ends.not_isDigit {rest : List Char} (h : Ends rest) : ∀ c ∈ rest.head?, ¬c.isDigit := by
  intro c hc
  rcases h c hc with rfl | rfl | rfl <;> decide

theorem readNumber_span {negative : Bool} {c : Char} (hz : c ≠ '0') (hc : c.isDigit)
    (s : List Char) : readNumber negative (c :: s) =
      readTail negative (Scan.whole ((c :: s).takeWhile Char.isDigit))
        ((c :: s).dropWhile Char.isDigit) := by
  unfold readNumber
  split
  · contradiction
  · rename_i h
    exact absurd (List.cons.inj h).1 hz
  · rename_i h
    rw [← (List.cons.inj h).1, hc]
    rfl

theorem readNumber_digits {negative : Bool} {n : Nat} (hn : n < 0x10000000000000000)
    (hneg : negative → 0 < n ∧ n ≤ 0x8000000000000000) {rest : List Char} (hr : Ends rest) :
    readNumber negative (Decimal.digits n ++ rest) =
      .ok (.number (.integer (if negative then -(n : Int) else n)), rest) := by
  have htail : readTail negative ⟨n, 0⟩ rest =
      .ok (.number (.integer (if negative then -(n : Int) else n)), rest) := by
    rw [readTail_ends hr, readTail.integral]
    cases negative with
    | false => simp
    | true => simp [hneg rfl]
  have hrest : (rest.head?.map Char.isDigit).getD false = false := by
    cases rest with
    | nil => rfl
    | cons c t => rcases hr c rfl with rfl | rfl | rfl <;> rfl
  by_cases hz : n = 0
  · subst hz
    rw [show Decimal.digits 0 = ['0'] from rfl, List.singleton_append, readNumber, hrest]
    exact htail
  · obtain ⟨c, t, ht⟩ := List.exists_cons_of_ne_nil (Decimal.digits_ne_nil n)
    have hc : c ≠ '0' := fun h => Decimal.digits_ne_zero_cons hz t (h ▸ ht)
    have hcd : c.isDigit := Decimal.isDigit_of_mem_digits (ht ▸ List.mem_cons_self)
    obtain ⟨htake, hdrop⟩ :=
      Decimal.span_digits (fun d hd => Decimal.isDigit_of_mem_digits hd) hr.not_isDigit
    rw [ht, List.cons_append, readNumber_span hc hcd, ← List.cons_append, ← ht, htake, hdrop,
      scan_whole_digits hn, htail]

mutual

/-- How many lists and objects are around one another in a value. -/
def depth : Json → Nat
  | array items => itemsDepth items + 1
  | object members => membersDepth members + 1
  | _ => 0

def itemsDepth : List Json → Nat
  | [] => 0
  | x :: xs => max (depth x) (itemsDepth xs)

def membersDepth : List (String × Json) → Nat
  | [] => 0
  | (_, x) :: xs => max (depth x) (membersDepth xs)

end

mutual

def numbers : Json → List Number
  | number n => [n]
  | array items => itemsNumbers items
  | object members => membersNumbers members
  | _ => []

def itemsNumbers : List Json → List Number
  | [] => []
  | x :: xs => numbers x ++ itemsNumbers xs

def membersNumbers : List (String × Json) → List Number
  | [] => []
  | (_, x) :: xs => numbers x ++ membersNumbers xs

end

theorem itemsSorted_iff {items : List Json} : ItemsSorted items ↔ ∀ x ∈ items, x.IsSorted := by
  induction items with
  | nil => simp [ItemsSorted]
  | cons x xs ih => simp [ItemsSorted, ih]

theorem membersSorted_iff {members : List (String × Json)} :
    MembersSorted members ↔ ∀ m ∈ members, m.2.IsSorted := by
  induction members with
  | nil => simp [MembersSorted]
  | cons m ms ih => simp [MembersSorted, ih]

theorem mem_itemsNumbers {n : Number} {items : List Json} :
    n ∈ itemsNumbers items ↔ ∃ x ∈ items, n ∈ x.numbers := by
  induction items with
  | nil => simp [itemsNumbers]
  | cons x xs ih => simp [itemsNumbers, ih]

theorem mem_membersNumbers {n : Number} {members : List (String × Json)} :
    n ∈ membersNumbers members ↔ ∃ m ∈ members, n ∈ m.2.numbers := by
  induction members with
  | nil => simp [membersNumbers]
  | cons m ms ih => simp [membersNumbers, ih]

theorem itemsDepth_le_iff {d : Nat} {items : List Json} :
    itemsDepth items ≤ d ↔ ∀ x ∈ items, x.depth ≤ d := by
  induction items with
  | nil => simp [itemsDepth]
  | cons x xs ih => simp [itemsDepth, ih]

theorem membersDepth_le_iff {d : Nat} {members : List (String × Json)} :
    membersDepth members ≤ d ↔ ∀ m ∈ members, m.2.depth ≤ d := by
  induction members with
  | nil => simp [membersDepth]
  | cons m ms ih => simp [membersDepth, ih]

def writeMember (m : String × Json) : List Char := writeString m.1 ++ ':' :: m.2.write

theorem writeItems_cons (x : Json) (xs : List Json) :
    writeItems (x :: xs) = x.write ++ xs.flatMap fun y => ',' :: y.write := by
  induction xs generalizing x with
  | nil => simp [writeItems]
  | cons y xs ih => rw [writeItems, ih, List.flatMap_cons, List.cons_append]; simp

theorem writeMembers_cons (m : String × Json) (ms : List (String × Json)) :
    writeMembers (m :: ms) = writeMember m ++ ms.flatMap fun n => ',' :: writeMember n := by
  induction ms generalizing m with
  | nil => simp [writeMembers, writeMember]
  | cons n ms ih =>
      rw [writeMembers, ih]
      · simp [writeMember]
      · simp

theorem skipGap_cons {c : Char} (h : ¬isGap c) (s : List Char) : skipGap (c :: s) = c :: s :=
  List.dropWhile_cons_of_neg h

theorem isGap_of_isDigit {c : Char} (h : c.isDigit) : ¬isGap c := by
  intro hg
  simp only [isGap, Bool.or_eq_true, beq_iff_eq] at hg
  rcases hg with ((rfl | rfl) | rfl) | rfl <;> exact absurd h (by decide)

theorem isDigit_head {n : Nat} {c : Char} {s : List Char} (h : Decimal.digits n = c :: s) :
    c.isDigit := Decimal.isDigit_of_mem_digits (h ▸ List.mem_cons_self)

structure Starts (c : Char) : Prop where
  gap : ¬isGap c
  close : c ≠ ']'

theorem starts_of_isDigit {c : Char} (h : c.isDigit) : Starts c :=
  ⟨isGap_of_isDigit h, ne_of_pos_of_neg h (by decide)⟩

theorem exists_decimal_eq_cons (l : Binary64.Layout) (d : Decimal) :
    ∃ c s, l.decimal d = c :: s ∧ c.isDigit := by
  obtain ⟨c, s, hd⟩ := List.exists_cons_of_ne_nil (Decimal.digits_ne_nil d.significand)
  have hc := isDigit_head hd
  unfold Binary64.Layout.decimal
  simp only [hd]
  split
  · unfold Binary64.Layout.positional
    simp only
    split
    · exact ⟨_, _, rfl, rfl⟩
    · rename_i ho
      obtain ⟨k, hk⟩ : ∃ k, (d.exponent + ((c :: s).length : Int)).toNat = k + 1 :=
        ⟨_, (Nat.succ_pred (by omega)).symm⟩
      split
      · rw [hk]
        exact ⟨_, _, rfl, hc⟩
      · exact ⟨_, _, rfl, hc⟩
  · unfold Binary64.Layout.scientific
    cases s <;> exact ⟨_, _, rfl, hc⟩

theorem exists_writeNumber_eq_cons (n : Number) : ∃ c s, writeNumber n = c :: s ∧ Starts c := by
  cases n with
  | integer n =>
      obtain ⟨c, s, hd⟩ := List.exists_cons_of_ne_nil (Decimal.digits_ne_nil n.natAbs)
      rw [writeNumber, hd]
      split
      · exact ⟨_, _, rfl, by decide, by decide⟩
      · exact ⟨_, _, rfl, starts_of_isDigit (isDigit_head hd)⟩
  | double x =>
      rw [writeNumber, Binary64.Layout.finite]
      split
      · exact ⟨_, _, rfl, by decide, by decide⟩
      · obtain ⟨c, s, hd, hc⟩ := exists_decimal_eq_cons doubleLayout
          (if x.isZero then ⟨0, 0⟩ else Binary64.shortest doubleLayout.tie x)
        exact ⟨c, s, hd, starts_of_isDigit hc⟩

theorem exists_write_eq_cons (j : Json) : ∃ c s, j.write = c :: s ∧ Starts c := by
  cases j with
  | null | string _ | array _ | object _ =>
      simp only [write, writeString]
      exact ⟨_, _, rfl, by decide, by decide⟩
  | bool b => cases b <;> exact ⟨_, _, rfl, by decide, by decide⟩
  | number n => exact exists_writeNumber_eq_cons n

theorem nextItem_first {c : Char} {s : List Char} (h : Starts c) :
    nextItem true (c :: s) = .ok (.inl (c :: s)) := by
  simp only [nextItem, skipGap_cons h.gap]
  split
  · contradiction
  · rename_i he
    exact absurd (List.cons.inj he).1 h.close
  · rename_i he
    rw [← he]
    rfl

theorem nextItem_next {c : Char} {s : List Char} (h : Starts c) :
    nextItem false (',' :: c :: s) = .ok (.inl (c :: s)) := by
  have hcomma : skipGap (',' :: c :: s) = ',' :: c :: s := skipGap_cons (by decide) _
  simp only [nextItem, hcomma]
  split
  · contradiction
  · rename_i he
    exact absurd (List.cons.inj he).1 (by decide)
  · rename_i he
    obtain ⟨rfl, rfl⟩ := List.cons.inj he
    simp only [Bool.false_eq_true, if_false, if_true, skipGap_cons h.gap]
    split
    · contradiction
    · rename_i he
      exact absurd (List.cons.inj he).1 h.close
    · rfl

section

variable {value : List Char → Except Stop (Json × List Char)} {f : Json → Except Cause Json}

theorem ends_flatMap {α : Type} {e : Char} (he : e = ']' ∨ e = '\x7d') (f : α → List Char)
    (xs : List α) (rest : List Char) : Ends ((xs.flatMap fun x => ',' :: f x) ++ e :: rest) := by
  intro c hc
  cases xs with
  | nil =>
      obtain rfl : e = c := by simpa using hc
      exact .inr he
  | cons x xs =>
      obtain rfl : ',' = c := by simpa using hc
      exact .inl rfl

/-- The reader gives `r` for the text of the value, wherever it stands in a text. -/
def GivesFor (value : List Char → Except Stop (Json × List Char)) (r : Except Cause Json)
    (x : Json) : Prop :=
  ∀ rest, Ends rest → (value (x.write ++ rest)).mapError Stop.cause = r.map (·, rest)

theorem readItems_cons {first : Bool} {fuel : Nat} {t s : List Char} {x : Json}
    {r : Except Cause Json} (ht : nextItem first t = .ok (.inl (x.write ++ s)))
    (hv : (value (x.write ++ s)).mapError Stop.cause = r.map (·, s)) :
    (readItems value (fuel + 1) first t).mapError Stop.cause = r >>= fun y =>
      ((readItems value fuel false s).mapError Stop.cause).map fun (ys, s) => (y :: ys, s) := by
  rw [readItems, ht, ok_bind]
  simp only
  rw [mapError_bind, hv]
  cases r with
  | error e => rfl
  | ok y => cases hr : readItems value fuel false s <;> simp [hr, Except.map, Except.mapError]

theorem readItems_next {items : List Json} (hv : ∀ x ∈ items, GivesFor value (f x) x)
    {fuel : Nat} (hf : items.length < fuel) (rest : List Char) :
    (readItems value fuel false
      ((items.flatMap fun x => ',' :: x.write) ++ ']' :: rest)).mapError Stop.cause =
      (items.mapM f).map (·, rest) := by
  induction items generalizing fuel with
  | nil =>
      obtain ⟨fuel, rfl⟩ : ∃ k, fuel = k + 1 := ⟨fuel - 1, by simp at hf; omega⟩
      rfl
  | cons x xs ih =>
      obtain ⟨fuel, rfl⟩ : ∃ k, fuel = k + 1 := ⟨fuel - 1, by simp at hf; omega⟩
      simp only [List.length_cons, Nat.add_lt_add_iff_right] at hf
      simp only [List.mem_cons, forall_eq_or_imp] at hv
      obtain ⟨c, s, hx, hc⟩ := exists_write_eq_cons x
      have hnext (t : List Char) : nextItem false (',' :: x.write ++ t) = .ok (.inl (x.write ++ t)) := by
        rw [hx]
        exact nextItem_next hc
      rw [List.flatMap_cons, List.append_assoc,
        readItems_cons (hnext _) (hv.1 _ (ends_flatMap (.inl rfl) write xs rest)), ih hv.2 hf,
        List.mapM_cons]
      cases f x with
      | error e => rfl
      | ok y => cases xs.mapM f <;> rfl

theorem readItems_write {items : List Json} (hv : ∀ x ∈ items, GivesFor value (f x) x)
    {fuel : Nat} (hf : items.length < fuel) (rest : List Char) :
    (readItems value fuel true (writeItems items ++ ']' :: rest)).mapError Stop.cause =
      (items.mapM f).map (·, rest) := by
  obtain ⟨fuel, rfl⟩ : ∃ k, fuel = k + 1 := ⟨fuel - 1, by omega⟩
  cases items with
  | nil => rfl
  | cons x xs =>
      simp only [List.length_cons, Nat.add_lt_add_iff_right] at hf
      simp only [List.mem_cons, forall_eq_or_imp] at hv
      obtain ⟨c, s, hx, hc⟩ := exists_write_eq_cons x
      have hnext (t : List Char) : nextItem true (x.write ++ t) = .ok (.inl (x.write ++ t)) := by
        rw [hx]
        exact nextItem_first hc
      rw [writeItems_cons, List.append_assoc,
        readItems_cons (hnext _) (hv.1 _ (ends_flatMap (.inl rfl) write xs rest)),
        readItems_next hv.2 hf, List.mapM_cons]
      cases f x with
      | error e => rfl
      | ok y => cases xs.mapM f <;> rfl

theorem writeMember_append (m : String × Json) (s : List Char) : writeMember m ++ s =
    '"' :: (m.1.toList.flatMap writeChar ++ '"' :: ':' :: (m.2.write ++ s)) := by
  simp [writeMember, writeString]

def inMember (f : Json → Except Cause Json) (m : String × Json) : Except Cause (String × Json) :=
  (f m.2).map (m.1, ·)

theorem readMembers_cons {first : Bool} {fuel : Nat} {t s : List Char} {m : String × Json}
    (ht : nextKey first t =
      .ok (.inl (m.1.toList.flatMap writeChar ++ '"' :: ':' :: (m.2.write ++ s))))
    (hv : (value (m.2.write ++ s)).mapError Stop.cause = (f m.2).map (·, s)) :
    (readMembers value (fuel + 1) first t).mapError Stop.cause = inMember f m >>= fun n =>
      ((readMembers value fuel false s).mapError Stop.cause).map fun (ms, s) => (n :: ms, s) := by
  rw [readMembers, ht, ok_bind]
  simp only
  rw [readString_write, ok_bind]
  simp only
  rw [show readColon (':' :: (m.2.write ++ s)) = .ok (m.2.write ++ s) from rfl, ok_bind,
    mapError_bind, hv, String.ofList_toList, inMember]
  cases f m.2 with
  | error e => rfl
  | ok y => cases hr : readMembers value fuel false s <;> simp [hr, Except.map, Except.mapError]

theorem readMembers_next {members : List (String × Json)}
    (hv : ∀ m ∈ members, GivesFor value (f m.2) m.2) {fuel : Nat} (hf : members.length < fuel)
    (rest : List Char) :
    (readMembers value fuel false
      ((members.flatMap fun m => ',' :: writeMember m) ++ '\x7d' :: rest)).mapError Stop.cause =
      (members.mapM (inMember f)).map (·, rest) := by
  induction members generalizing fuel with
  | nil =>
      obtain ⟨fuel, rfl⟩ : ∃ k, fuel = k + 1 := ⟨fuel - 1, by simp at hf; omega⟩
      rfl
  | cons m ms ih =>
      obtain ⟨fuel, rfl⟩ : ∃ k, fuel = k + 1 := ⟨fuel - 1, by simp at hf; omega⟩
      simp only [List.length_cons, Nat.add_lt_add_iff_right] at hf
      simp only [List.mem_cons, forall_eq_or_imp] at hv
      rw [List.flatMap_cons, List.append_assoc, List.cons_append, writeMember_append,
        readMembers_cons rfl (hv.1 _ (ends_flatMap (.inr rfl) writeMember ms rest)), ih hv.2 hf,
        List.mapM_cons]
      cases inMember f m with
      | error e => rfl
      | ok n => cases ms.mapM (inMember f) <;> rfl

theorem readMembers_write {members : List (String × Json)}
    (hv : ∀ m ∈ members, GivesFor value (f m.2) m.2) {fuel : Nat} (hf : members.length < fuel)
    (rest : List Char) :
    (readMembers value fuel true (writeMembers members ++ '\x7d' :: rest)).mapError Stop.cause =
      (members.mapM (inMember f)).map (·, rest) := by
  obtain ⟨fuel, rfl⟩ : ∃ k, fuel = k + 1 := ⟨fuel - 1, by omega⟩
  cases members with
  | nil => rfl
  | cons m ms =>
      simp only [List.length_cons, Nat.add_lt_add_iff_right] at hf
      simp only [List.mem_cons, forall_eq_or_imp] at hv
      rw [writeMembers_cons, List.append_assoc, writeMember_append,
        readMembers_cons rfl (hv.1 _ (ends_flatMap (.inr rfl) writeMember ms rest)),
        readMembers_next hv.2 hf, List.mapM_cons]
      cases inMember f m with
      | error e => rfl
      | ok n => cases ms.mapM (inMember f) <;> rfl

end

theorem insert_of_lt {key : String} {value : Json} {members : List (String × Json)}
    (h : ∀ m ∈ members, m.1 < key) : insert key value members = members ++ [(key, value)] := by
  induction members with
  | nil => rfl
  | cons m ms ih =>
      obtain ⟨k, v⟩ := m
      simp only [List.mem_cons, forall_eq_or_imp] at h
      rw [insert, if_neg (ne_of_gt h.1), if_neg (not_lt_of_gt h.1), ih h.2]
      rfl

theorem foldl_insert {members acc : List (String × Json)}
    (h : ((acc ++ members).map (·.1)).Pairwise (· < ·)) :
    members.foldl (fun sorted (k, v) => insert k v sorted) acc = acc ++ members := by
  induction members generalizing acc with
  | nil => simp
  | cons m ms ih =>
      obtain ⟨k, v⟩ := m
      have hlt : ∀ n ∈ acc, n.1 < k := by
        rw [List.map_append, List.pairwise_append] at h
        exact fun n hn => h.2.2 n.1 (List.mem_map_of_mem hn) k (by simp)
      rw [List.foldl_cons]
      simp only [insert_of_lt hlt]
      rw [ih (by simpa using h), List.append_assoc, List.singleton_append]

theorem ofMembers_eq {members : List (String × Json)}
    (h : (members.map (·.1)).Pairwise (· < ·)) : ofMembers members = .object members := by
  rw [ofMembers, foldl_insert (by simpa using h), List.nil_append]

theorem length_le_flatMap {α : Type} {f : α → List Char} (hf : ∀ x, f x ≠ []) (xs : List α) :
    xs.length ≤ (xs.flatMap f).length := by
  induction xs with
  | nil => simp
  | cons x xs ih =>
      have := List.length_pos_of_ne_nil (hf x)
      simp only [List.flatMap_cons, List.length_append, List.length_cons]
      omega

theorem length_le_writeItems (items : List Json) :
    items.length ≤ (writeItems items).length := by
  cases items with
  | nil => simp
  | cons x xs =>
      obtain ⟨c, s, hx, -⟩ := exists_write_eq_cons x
      have := length_le_flatMap (f := fun y => ',' :: write y) (by simp) xs
      rw [writeItems_cons, hx]
      simp only [List.length_append, List.length_cons]
      omega

theorem length_le_writeMembers (members : List (String × Json)) :
    members.length ≤ (writeMembers members).length := by
  cases members with
  | nil => simp
  | cons m ms =>
      have := length_le_flatMap (f := fun m => ',' :: writeMember m) (by simp) ms
      rw [writeMembers_cons, writeMember, writeString]
      simp only [List.length_append, List.length_cons]
      omega

theorem readValue_digit {c : Char} (h : c.isDigit) (room : Nat) (s : List Char) :
    readValue room (c :: s) = readNumber false (c :: s) := by
  rw [readValue.eq_def, skipGap_cons (isGap_of_isDigit h)]
  split
  case h_9 he =>
    obtain ⟨rfl, rfl⟩ := List.cons.inj he
    rw [if_pos h]
  all_goals
    rename_i he
    cases he
  all_goals exact absurd h (by decide)

theorem readValue_string (room : Nat) (s rest : List Char) :
    readValue room ('"' :: (s.flatMap writeChar ++ '"' :: rest)) =
      .ok (.string (String.ofList s), rest) := by
  rw [readValue.eq_def, skipGap_cons (by decide)]
  simp only
  rw [readString_write, ok_bind]
  rfl

theorem readValue_array (room : Nat) (s : List Char) :
    (readValue (room + 1) ('[' :: s)).mapError Stop.cause =
      ((readItems (readValue room) (s.length + 1) true s).mapError Stop.cause).map
        fun (items, rest) => (.array items, rest) := by
  rw [readValue.eq_def, skipGap_cons (by decide)]
  simp only
  cases readItems (readValue room) (s.length + 1) true s <;> rfl

theorem readValue_object (room : Nat) (s : List Char) :
    (readValue (room + 1) ('\x7b' :: s)).mapError Stop.cause =
      ((readMembers (readValue room) (s.length + 1) true s).mapError Stop.cause).map
        fun (members, rest) => (ofMembers members, rest) := by
  rw [readValue.eq_def, skipGap_cons (by decide)]
  simp only
  cases readMembers (readValue room) (s.length + 1) true s <;> rfl

/-- A number is read back from what it is written as wherever it stands in a text. -/
def Number.ReadsBack (n : Number) : Prop :=
  ∀ room rest, Ends rest → readValue room (writeNumber n ++ rest) = .ok (.number n, rest)

theorem Number.readsBack_integer {n : Int} (h : (Number.integer n).InRange) :
    (Number.integer n).ReadsBack := by
  intro room rest hr
  obtain ⟨hl, hu⟩ := h
  rw [writeNumber]
  split
  · rename_i hneg
    have hread := @readNumber_digits true n.natAbs (by omega) (fun _ => by omega) rest hr
    rw [List.cons_append, readValue.eq_def, skipGap_cons (by decide)]
    simp only
    rw [hread, if_pos rfl, show -(n.natAbs : Int) = n by omega]
  · rename_i hpos
    obtain ⟨c, s, hd⟩ := List.exists_cons_of_ne_nil (Decimal.digits_ne_nil n.natAbs)
    have hread := @readNumber_digits false n.natAbs (by omega) (by simp) rest hr
    rw [hd, List.cons_append] at hread ⊢
    rw [readValue_digit (isDigit_head hd), hread, if_neg (by simp),
      show (n.natAbs : Int) = n by omega]

theorem Number.InRange.readsBack {n : Number} (h : n.InRange)
    (hn : ∀ x, n = .double x → n.ReadsBack) : n.ReadsBack := by
  cases n with
  | integer n => exact Number.readsBack_integer h
  | double x => exact hn x rfl

end ResourceQuery.Json
