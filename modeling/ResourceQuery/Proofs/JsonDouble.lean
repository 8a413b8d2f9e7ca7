import ResourceQuery.Proofs.JsonReread

namespace ResourceQuery

open Outcome

namespace Json

def doubleThen (r : Option Binary64) (rest : List Char) : Except Cause (Json × List Char) :=
  match r with
  | some y => .ok (.number (.double y), rest)
  | none => .error .numberOutOfRange

/-- The text is read as a double, or as one that is out of range, whatever may follow it. -/
def GivesDouble (read : List Char → Except Stop (Json × List Char)) (s : List Char) : Prop :=
  ∃ r, ∀ rest, Ends rest → (read (s ++ rest)).mapError Stop.cause = doubleThen r rest

theorem mapError_double (negative : Bool) (s : Scan) (rest : List Char) :
    (double negative s rest).mapError Stop.cause = doubleThen (s.toDouble? negative) rest := by
  unfold double
  cases s.toDouble? negative <;> rfl

theorem exponentDigits_append {ds : List Char} (hd : ∀ c ∈ ds, c.isDigit) (n : Nat) :
    ∃ m t, (∀ c ∈ t, c.isDigit) ∧ (m < exponentBound → t = []) ∧
      ∀ rest, Ends rest → exponentDigits n (ds ++ rest) = (m, t ++ rest) := by
  induction ds generalizing n with
  | nil =>
      refine ⟨n, [], by simp, fun _ => rfl, fun rest hr => ?_⟩
      cases rest with
      | nil => rfl
      | cons c t =>
          change exponentDigits n (c :: t) = (n, c :: t)
          rw [exponentDigits, if_neg (hr.not_isDigit c rfl)]
  | cons c ds ih =>
      simp only [List.mem_cons, forall_eq_or_imp] at hd
      by_cases hb : 10 * n + Decimal.digitValue c < exponentBound
      · obtain ⟨m, t, ht, hm, hr⟩ := ih hd.2 (10 * n + Decimal.digitValue c)
        refine ⟨m, t, ht, hm, fun rest he => ?_⟩
        rw [List.cons_append, exponentDigits, if_pos hd.1]
        simp only [if_pos hb]
        exact hr rest he
      · refine ⟨10 * n + Decimal.digitValue c, ds, hd.2, fun h => absurd h hb, fun rest _ => ?_⟩
        rw [List.cons_append, exponentDigits, if_pos hd.1]
        simp only [if_neg hb]

section

variable {negative : Bool} {s : Scan} {fr ds : List Char} {sg : Char}

structure IsExponent (sg : Char) (ds : List Char) : Prop where
  sign : sg = '+' ∨ sg = '-'
  ne : ds ≠ []
  digits : ∀ c ∈ ds, c.isDigit

theorem readExponent_sign (h : sg = '+' ∨ sg = '-') {c : Char} (hc : c.isDigit) (t : List Char) :
    readExponent negative s (sg :: c :: t) =
      let (n, rest) := exponentDigits 0 (c :: t)
      if n < exponentBound then
        double negative
          ⟨s.significand, if sg = '-' then s.exponent - n else s.exponent + n⟩ rest
      else if s.significand = 0 ∨ sg = '-' then
        .ok (.number (.double (.zero negative)), rest.dropWhile Char.isDigit)
      else stop .numberOutOfRange rest := by
  rcases h with rfl | rfl <;> simp [readExponent, hc]

theorem givesDouble_readExponent (h : IsExponent sg ds) :
    GivesDouble (readExponent negative s) (sg :: ds) := by
  obtain ⟨m, t, ht, hm, hread⟩ := exponentDigits_append h.digits 0
  obtain ⟨c, ds, rfl⟩ := List.exists_cons_of_ne_nil h.ne
  have hc := h.digits c List.mem_cons_self
  have hx (rest : List Char) (hr : Ends rest) := hread rest hr
  simp only [List.cons_append] at hx
  by_cases hb : m < exponentBound
  · obtain rfl := hm hb
    refine ⟨Scan.toDouble? negative
      ⟨s.significand, if sg = '-' then s.exponent - m else s.exponent + m⟩, fun rest hr => ?_⟩
    rw [List.cons_append, List.cons_append, readExponent_sign h.sign hc, hx rest hr]
    simp only [if_pos hb]
    exact mapError_double _ _ _
  · by_cases hz : s.significand = 0 ∨ sg = '-'
    · refine ⟨some (.zero negative), fun rest hr => ?_⟩
      rw [List.cons_append, List.cons_append, readExponent_sign h.sign hc, hx rest hr]
      simp only [if_neg hb, if_pos hz, (Decimal.span_digits ht hr.not_isDigit).2]
      rfl
    · refine ⟨none, fun rest hr => ?_⟩
      rw [List.cons_append, List.cons_append, readExponent_sign h.sign hc, hx rest hr]
      simp only [if_neg hb, if_neg hz]
      rfl

/-- What follows the digits before the point of a double: a fraction, an exponent or both. -/
inductive DoubleTail : List Char → Prop
  | fraction {fr : List Char} : fr ≠ [] → (∀ c ∈ fr, c.isDigit) → DoubleTail ('.' :: fr)
  | exponent {sg : Char} {ds : List Char} : IsExponent sg ds → DoubleTail ('e' :: sg :: ds)
  | both {fr : List Char} {sg : Char} {ds : List Char} : fr ≠ [] → (∀ c ∈ fr, c.isDigit) →
      IsExponent sg ds → DoubleTail ('.' :: (fr ++ 'e' :: sg :: ds))

theorem readTail_fraction {rest : List Char} (hne : fr ≠ []) (hd : ∀ c ∈ fr, c.isDigit)
    (hr : ∀ c ∈ rest.head?, ¬c.isDigit) : readTail negative s ('.' :: (fr ++ rest)) =
      match rest with
      | c :: r =>
          if isExponentMark c then readExponent negative (s.fraction fr) r
          else double negative (s.fraction fr) rest
      | [] => double negative (s.fraction fr) [] := by
  have hf : fr.isEmpty = false := by simpa using hne
  obtain ⟨ht, hdrop⟩ := Decimal.span_digits hd hr
  simp only [readTail, ht, hdrop, hf]
  cases rest <;> rfl

theorem DoubleTail.givesDouble {t : List Char} (h : DoubleTail t) :
    GivesDouble (readTail negative s) t := by
  cases h with
  | @fraction fr hne hd =>
      refine ⟨(s.fraction fr).toDouble? negative, fun rest hr => ?_⟩
      rw [List.cons_append, readTail_fraction hne hd hr.not_isDigit]
      cases rest with
      | nil => exact mapError_double _ _ _
      | cons c r =>
          have hc : isExponentMark c = false := by
            rcases hr c rfl with rfl | rfl | rfl <;> rfl
          simp only [hc]
          exact mapError_double _ _ _
  | exponent he => exact givesDouble_readExponent he
  | both hne hd he =>
      obtain ⟨r, hx⟩ := @givesDouble_readExponent negative (s.fraction _) _ _ he
      refine ⟨r, fun rest hr => ?_⟩
      rw [List.cons_append, List.append_assoc, readTail_fraction hne hd (by simp)]
      exact hx rest hr

/-- The digits before the point of a number. A zero in front stands alone. -/
inductive Whole : List Char → Prop
  | zero : Whole ['0']
  | digits {c : Char} {ds : List Char} : c ≠ '0' → (∀ d ∈ c :: ds, d.isDigit) → Whole (c :: ds)

theorem DoubleTail.head {t : List Char} (h : DoubleTail t) (rest : List Char) :
    ∀ c ∈ (t ++ rest).head?, ¬c.isDigit := by
  cases h <;> simp

theorem givesDouble_readNumber {w t : List Char} (hw : Whole w) (ht : DoubleTail t) :
    GivesDouble (readNumber negative) (w ++ t) := by
  cases hw with
  | zero =>
      obtain ⟨r, hx⟩ := @DoubleTail.givesDouble negative ⟨0, 0⟩ t ht
      refine ⟨r, fun rest hr => ?_⟩
      have hn : ((t ++ rest).head?.map Char.isDigit).getD false = false := by
        have := ht.head rest
        cases hh : (t ++ rest).head? with
        | none => rfl
        | some c => simpa using this c hh
      rw [List.append_assoc, List.singleton_append, readNumber, hn]
      exact hx rest hr
  | @digits c ds hz hd =>
      obtain ⟨r, hx⟩ := @DoubleTail.givesDouble negative (Scan.whole (c :: ds)) t ht
      refine ⟨r, fun rest hr => ?_⟩
      obtain ⟨htake, hdrop⟩ := Decimal.span_digits hd (ht.head rest)
      rw [List.append_assoc, List.cons_append, readNumber_span hz (hd c List.mem_cons_self),
        ← List.cons_append, htake, hdrop]
      exact hx rest hr

theorem readValue_minus (room : Nat) (s : List Char) :
    readValue room ('-' :: s) = readNumber true s := by
  rw [readValue.eq_def, skipGap_cons (by decide)]
  rfl

theorem Whole.exists_eq_cons {w : List Char} (h : Whole w) : ∃ c ds, w = c :: ds ∧ c.isDigit := by
  cases h with
  | zero => exact ⟨_, _, rfl, rfl⟩
  | digits _ hd => exact ⟨_, _, rfl, hd _ List.mem_cons_self⟩

end

theorem exists_digits_eq_cons {n : Nat} (hn : n ≠ 0) :
    ∃ c ds, Decimal.digits n = c :: ds ∧ c ≠ '0' ∧ c.isDigit ∧ ∀ d ∈ ds, d.isDigit := by
  obtain ⟨c, ds, hd⟩ := List.exists_cons_of_ne_nil (Decimal.digits_ne_nil n)
  have hall : ∀ d ∈ c :: ds, d.isDigit := fun d hm => Decimal.isDigit_of_mem_digits (hd ▸ hm)
  exact ⟨c, ds, hd, fun h => Decimal.digits_ne_zero_cons hn ds (h ▸ hd),
    List.forall_mem_cons.1 hall⟩

theorem isDigit_of_mem_replicate {k : Nat} {c : Char} (h : c ∈ List.replicate k '0') : c.isDigit :=
  (List.mem_replicate.1 h).2 ▸ rfl

theorem exists_positional {n : Nat} (hn : n ≠ 0) (order : Int) :
    ∃ w t, doubleLayout.positional (Decimal.digits n) order = w ++ t ∧ Whole w ∧ DoubleTail t := by
  obtain ⟨c, ds, hd, hz, hc, hds⟩ := exists_digits_eq_cons hn
  have hall : ∀ d ∈ c :: ds, d.isDigit := List.forall_mem_cons.2 ⟨hc, hds⟩
  rw [hd]
  unfold Binary64.Layout.positional
  simp only
  split
  · refine ⟨['0'], _, rfl, .zero, .fraction (by simp) fun d hm => ?_⟩
    rcases List.mem_append.1 hm with hm | hm
    · exact isDigit_of_mem_replicate hm
    · exact hall d hm
  · split
    · obtain ⟨k, hk⟩ : ∃ k, order.toNat = k + 1 := ⟨order.toNat - 1, by omega⟩
      have hlen : k < ds.length := by
        simp only [List.length_cons] at *
        omega
      rw [hk, List.take_succ_cons, List.drop_succ_cons]
      refine ⟨_, _, rfl, .digits hz ?_, .fraction ?_ fun d hm => hds d (List.mem_of_mem_drop hm)⟩
      · exact List.forall_mem_cons.2 ⟨hc, fun d hm => hds d (List.mem_of_mem_take hm)⟩
      · rw [Ne, List.drop_eq_nil_iff]
        omega
    · refine ⟨_, ['.', '0'], rfl, .digits hz ?_, .fraction (by simp) (by decide)⟩
      exact List.forall_mem_cons.2 ⟨hc, fun d hm => (List.mem_append.1 hm).elim (hds d)
        isDigit_of_mem_replicate⟩

theorem exists_scientific {n : Nat} (hn : n ≠ 0) (order : Int) :
    ∃ w t, doubleLayout.scientific (Decimal.digits n) order = w ++ t ∧ Whole w ∧ DoubleTail t := by
  obtain ⟨c, ds, hd, hz, hc, hds⟩ := exists_digits_eq_cons hn
  have hw : Whole [c] := .digits hz (by simpa using hc)
  obtain ⟨sg, hsg, hs⟩ : ∃ sg, (sg = '+' ∨ sg = '-') ∧
      (if order - 1 < 0 then ['-'] else doubleLayout.plus.toList) = [sg] := by
    split
    · exact ⟨'-', .inr rfl, rfl⟩
    · exact ⟨'+', .inl rfl, rfl⟩
  have he : IsExponent sg (Decimal.digits (order - 1).natAbs) :=
    ⟨hsg, Decimal.digits_ne_nil _, fun d hm => Decimal.isDigit_of_mem_digits hm⟩
  rw [hd]
  unfold Binary64.Layout.scientific
  simp only [hs]
  cases ds with
  | nil => exact ⟨[c], _, rfl, hw, .exponent he⟩
  | cons d ds => exact ⟨[c], _, by simp, hw, .both (by simp) hds he⟩

theorem exists_decimal {d : Decimal} (h : d.significand ≠ 0 ∨ d = ⟨0, 0⟩) :
    ∃ w t, doubleLayout.decimal d = w ++ t ∧ Whole w ∧ DoubleTail t := by
  rcases h with hn | rfl
  · unfold Binary64.Layout.decimal
    simp only
    split
    · exact exists_positional hn _
    · exact exists_scientific hn _
  · exact ⟨['0'], ['.', '0'], rfl, .zero, .fraction (by simp) (by decide)⟩

end Json

namespace Binary64

theorem significand_exactDecimal {x : Binary64} (h : x.isZero = false) :
    (exactDecimal x).significand ≠ 0 := by
  have hp : x.parts.significand ≠ 0 := by
    simp only [isZero, beq_eq_false_iff_ne] at h
    unfold parts
    simp only
    split
    · rename_i hf
      have := Nat.div_add_mod x.magnitude leadingBit
      simp only at *
      rw [hf] at this
      omega
    · simp [leadingBit]
  unfold exactDecimal
  simp only
  split
  · exact Nat.mul_ne_zero hp (Nat.pos_iff_ne_zero.1 (Nat.pow_pos (by decide)))
  · exact Nat.mul_ne_zero hp (Nat.pos_iff_ne_zero.1 (Nat.pow_pos (by decide)))

theorem readsBack_of_ofDigitCount? {tie : Tie} {x : Binary64} {count : Nat} {d : Decimal}
    (h : ofDigitCount? tie x count = some d) : readsBack x d := by
  have pick {near far : Decimal} (h : (if readsBack x near then some near
      else if readsBack x far then some far else none) = some d) : readsBack x d := by
    split at h
    · rename_i hr
      exact Option.some.inj h ▸ hr
    · split at h
      · rename_i hr
        exact Option.some.inj h ▸ hr
      · simp at h
  exact pick h

theorem significand_of_readsBack {x : Binary64} (h : x.isZero = false) {d : Decimal}
    (hr : readsBack x d) : d.significand ≠ 0 := by
  intro hz
  rw [readsBack, Decimal.toBinary64, if_pos hz, beq_iff_eq] at hr
  rw [← hr] at h
  revert h
  cases x.isNegative <;> decide

theorem significand_shortest (tie : Tie) {x : Binary64} (h : x.isZero = false) :
    (shortest tie x).significand ≠ 0 := by
  unfold shortest
  split
  · rename_i d hd
    obtain ⟨count, -, hc⟩ := List.exists_of_findSome?_eq_some hd
    have hn := significand_of_readsBack h (readsBack_of_ofDigitCount? hc)
    rw [Decimal.stripZeros, Decimal.stripZeros]
    split
    · simp only
      omega
    · exact hn
  · exact significand_exactDecimal h

end Binary64

namespace Json

theorem exists_readValue_double (x : Binary64) : ∃ r, ∀ room rest, Ends rest →
    (readValue room (writeNumber (.double x) ++ rest)).mapError Stop.cause = doubleThen r rest := by
  obtain ⟨w, t, ht, hw, htail⟩ := exists_decimal
    (d := if x.isZero then ⟨0, 0⟩ else Binary64.shortest doubleLayout.tie x) (by
      split
      · exact .inr rfl
      · rename_i hz
        exact .inl (Binary64.significand_shortest _ (Bool.eq_false_iff.2 hz)))
  obtain ⟨r, hr⟩ := @givesDouble_readNumber x.isNegative w t hw htail
  refine ⟨r, fun room rest he => ?_⟩
  rw [← hr rest he, writeNumber, Binary64.Layout.finite]
  simp only [ht]
  cases hneg : x.isNegative with
  | true => rw [if_pos rfl, List.cons_append, readValue_minus]
  | false =>
      obtain ⟨c, ds, rfl, hc⟩ := hw.exists_eq_cons
      rw [if_neg (by simp), List.cons_append, List.cons_append, readValue_digit hc]

theorem Number.reread_double {x : Binary64} {r : Option Binary64} (h : ∀ room rest, Ends rest →
    (readValue room (writeNumber (.double x) ++ rest)).mapError Stop.cause = doubleThen r rest) :
    (Number.double x).reread = (r.map Number.double).elim (.error .numberOutOfRange) .ok := by
  have hx := h 0 [] (by simp [Ends])
  rw [List.append_nil] at hx
  rw [Number.reread]
  cases r with
  | none =>
      obtain ⟨e, he, -⟩ := mapError_eq_error.1 hx
      rw [he]
      rfl
  | some y =>
      rw [mapError_eq_ok.1 hx]
      rfl

theorem Number.exists_of_reread_double {x : Binary64} {m : Number}
    (h : (Number.double x).reread = .ok m) : ∃ y, m = .double y := by
  obtain ⟨r, hr⟩ := exists_readValue_double x
  rw [Number.reread_double hr] at h
  cases r with
  | none => simp at h
  | some y => exact ⟨y, (Except.ok.inj h).symm⟩

example : (Number.double ⟨0x412c8429182d0d80⟩).reread = .ok (.double ⟨0x412c8429182d0d81⟩) := by
  decide +kernel

theorem Number.rereads_double (x : Binary64) : (Number.double x).Rereads := by
  obtain ⟨r, hr⟩ := exists_readValue_double x
  intro room rest he
  rw [write, hr room rest he, Number.reread_double hr]
  cases r <;> rfl

theorem Number.InRange.rereads {n : Number} (h : n.InRange) : n.Rereads := by
  cases n with
  | integer n => exact (Number.readsBack_integer h).rereads
  | double x => exact Number.rereads_double x

end Json

end ResourceQuery
