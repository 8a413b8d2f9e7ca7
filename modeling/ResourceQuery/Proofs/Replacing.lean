import Mathlib.Data.List.Infix
import ResourceQuery.Text

namespace ResourceQuery.Text

variable {old new : List Char} {c : Char}

theorem prefix_of_prefix_append_cons {w x y : List Char} {c : Char} (hw : c ∉ w)
    (h : w <+: x ++ c :: y) : w <+: x := by
  rcases List.prefix_or_prefix_of_prefix h (List.prefix_append x (c :: y)) with hp | ⟨t, rfl⟩
  · exact hp
  · cases t with
    | nil => simp
    | cons d t =>
        rw [List.prefix_append_right_inj, List.cons_prefix_cons] at h
        simp [h.1] at hw

theorem not_infix_append_cons {w x y : List Char} {c : Char} (hw : c ∉ w) (hx : ¬w <:+: x)
    (hy : ¬w <:+: y) : ¬w <:+: x ++ c :: y := by
  induction x with
  | nil =>
      rw [List.nil_append, List.infix_cons_iff]
      rintro (h | h)
      · exact hx (prefix_of_prefix_append_cons (x := []) hw h).isInfix
      · exact hy h
  | cons a x ih =>
      rw [List.cons_append, List.infix_cons_iff]
      rintro (h | h)
      · exact hx (prefix_of_prefix_append_cons (x := a :: x) hw h).isInfix
      · exact ih (fun h => hx (h.trans (List.infix_cons List.infix_rfl))) h

theorem infix_of_append {x y u : List Char} (hc : c ∉ x) (h : c :: u <:+: x ++ y) :
    c :: u <:+: y := by
  induction x with
  | nil => exact h
  | cons d x ih =>
      rw [List.mem_cons, not_or] at hc
      rw [List.cons_append, List.infix_cons_iff, List.cons_prefix_cons] at h
      exact h.elim (fun hp => absurd hp.1 hc.1) (ih hc.2)

theorem replace_eq_of_absent {s : List Char} (h : ¬old <:+: s) :
    replace old new s = s := by
  unfold replace
  induction s with
  | nil => rfl
  | cons c s ih =>
      rw [List.infix_cons_iff, not_or] at h
      rw [replaceFrom, if_neg (by simpa using h.1), ih h.2]

theorem replaceFrom_eq_drop (n : Nat) (s : List Char) :
    replaceFrom old new n s = replaceFrom old new 0 (s.drop n) := by
  induction n generalizing s with
  | zero => rfl
  | succ n ih =>
      cases s with
      | nil => rfl
      | cons d s => rw [replaceFrom, ih, List.drop_succ_cons]

theorem replace_cons_of_append {d : Char} {s t : List Char} (ho : old ≠ [])
    (h : d :: s = old ++ t) : replace old new (d :: s) = new ++ replace old new t := by
  have hp : old.isPrefixOf (d :: s) := by simp [h]
  have ht : s.drop (old.length - 1) = t := by
    obtain ⟨e, u, rfl⟩ := List.exists_cons_of_ne_nil ho
    obtain ⟨-, rfl⟩ := List.cons.inj h
    simp
  rw [replace, replaceFrom, if_pos hp, replaceFrom_eq_drop, ht, replace]

theorem replace_cons_of_absent {d : Char} {s : List Char} (h : ¬old <+: d :: s) :
    replace old new (d :: s) = d :: replace old new s := by
  rw [replace, replaceFrom, if_neg (by simpa using h), replace]

theorem replace_append_of_notMem {s : List Char} (h : c ∉ s) (t : List Char) :
    replace (c :: old) new (s ++ t) = s ++ replace (c :: old) new t := by
  induction s with
  | nil => rfl
  | cons d s ih =>
      rw [List.mem_cons, not_or] at h
      have hp : ¬c :: old <+: d :: (s ++ t) := by
        intro hp
        exact h.1 (List.cons_prefix_cons.1 hp).1
      rw [List.cons_append, replace_cons_of_absent hp, ih h.2, List.cons_append]

theorem replace_append_cons (hc : c ∉ old) (ho : old ≠ []) (x y : List Char) :
    replace old new (x ++ c :: y) = replace old new x ++ c :: replace old new y := by
  match x with
  | [] =>
      have hp : ¬old <+: c :: y := fun h =>
        ho (List.prefix_nil.1 (prefix_of_prefix_append_cons (x := []) hc h))
      rw [List.nil_append, replace_cons_of_absent hp]
      rfl
  | d :: x =>
      by_cases hp : old <+: d :: x
      · obtain ⟨t, ht⟩ := hp
        have hlen : t.length ≤ x.length := by
          have := congrArg List.length ht
          have := List.length_pos_of_ne_nil ho
          simp only [List.length_append, List.length_cons] at *
          omega
        have ht' : d :: (x ++ c :: y) = old ++ (t ++ c :: y) := by
          rw [← List.append_assoc, ht, List.cons_append]
        rw [List.cons_append, replace_cons_of_append ho ht', replace_append_cons hc ho t y,
          replace_cons_of_append ho ht.symm, List.append_assoc]
      · have hp' : ¬old <+: d :: (x ++ c :: y) := fun h =>
          hp (prefix_of_prefix_append_cons (x := d :: x) hc h)
        rw [List.cons_append, replace_cons_of_absent hp', replace_append_cons hc ho x y,
          replace_cons_of_absent hp, List.cons_append]
termination_by x.length

theorem prefix_of_prefix_replace {w s : List Char} (hn : ∀ d ∈ new, d ∉ w) (hne : new ≠ [])
    (ho : old ≠ []) (h : w <+: replace old new s) : w <+: s := by
  induction w generalizing s with
  | nil => exact List.nil_prefix
  | cons d w ih =>
      cases s with
      | nil => exact h
      | cons e s =>
          by_cases hp : old <+: e :: s
          · obtain ⟨t, ht⟩ := hp
            obtain ⟨a, new, rfl⟩ := List.exists_cons_of_ne_nil hne
            rw [replace_cons_of_append ho ht.symm, List.cons_append, List.cons_prefix_cons] at h
            exact absurd (h.1 ▸ List.mem_cons_self) (hn a List.mem_cons_self)
          · rw [replace_cons_of_absent hp, List.cons_prefix_cons] at h
            rw [List.cons_prefix_cons]
            exact ⟨h.1, ih (fun c hc hm => hn c hc (List.mem_cons_of_mem d hm)) h.2⟩

theorem exists_of_infix_replace {w s : List Char} (hw : w ≠ []) (hn : ∀ d ∈ new, d ∉ w)
    (hne : new ≠ []) (ho : old ≠ []) (h : w <:+: replace old new s) :
    ∃ t, t <:+ s ∧ ¬old <+: t ∧ w <+: t := by
  match s with
  | [] => exact absurd (List.infix_nil.1 h) hw
  | e :: s =>
      by_cases hp : old <+: e :: s
      · obtain ⟨t, ht⟩ := hp
        have hlen : t.length ≤ s.length := by
          have := congrArg List.length ht
          have := List.length_pos_of_ne_nil ho
          simp only [List.length_append, List.length_cons] at *
          omega
        obtain ⟨d, w, rfl⟩ := List.exists_cons_of_ne_nil hw
        rw [replace_cons_of_append ho ht.symm] at h
        have hd : d ∉ new := fun hm => hn d hm List.mem_cons_self
        obtain ⟨u, hu, hou, hwu⟩ :=
          exists_of_infix_replace hw hn hne ho (infix_of_append hd h)
        exact ⟨u, ht ▸ hu.trans (List.suffix_append old t), hou, hwu⟩
      · rw [replace_cons_of_absent hp, List.infix_cons_iff] at h
        rcases h with h | h
        · refine ⟨e :: s, List.suffix_rfl, hp, ?_⟩
          obtain ⟨d, w, rfl⟩ := List.exists_cons_of_ne_nil hw
          rw [List.cons_prefix_cons] at h ⊢
          exact ⟨h.1, prefix_of_prefix_replace (fun c hc hm => hn c hc (List.mem_cons_of_mem d hm))
            hne ho h.2⟩
        · obtain ⟨u, hu, hou, hwu⟩ := exists_of_infix_replace hw hn hne ho h
          exact ⟨u, hu.trans (List.suffix_cons e s), hou, hwu⟩
termination_by s.length

theorem mem_replaceFrom {d : Char} {n : Nat} {s : List Char} (h : d ∈ replaceFrom old new n s) :
    d ∈ s ∨ d ∈ new := by
  fun_induction replaceFrom old new n s with
  | case1 => exact .inl h
  | case2 n e s ih => exact (ih h).imp_left (List.mem_cons_of_mem e)
  | case3 e s hp ih =>
      rcases List.mem_append.1 h with h | h
      · exact .inr h
      · exact (ih h).imp_left (List.mem_cons_of_mem e)
  | case4 e s hp ih =>
      rcases List.mem_cons.1 h with rfl | h
      · exact .inl List.mem_cons_self
      · exact (ih h).imp_left (List.mem_cons_of_mem e)

theorem forall_mem_replace {P : Char → Prop} {s : List Char} (hs : ∀ d ∈ s, P d)
    (hn : ∀ d ∈ new, P d) : ∀ d ∈ replace old new s, P d := fun d hd =>
  (mem_replaceFrom hd).elim (hs d) (hn d)

theorem count_replaceFrom_le (hn : c ∉ new) (n : Nat) (s : List Char) :
    (replaceFrom old new n s).count c ≤ s.count c := by
  fun_induction replaceFrom old new n s with
  | case1 => simp
  | case2 n e s ih =>
      rw [List.count_cons]
      omega
  | case3 e s hp ih =>
      rw [List.count_append, List.count_eq_zero.2 hn, List.count_cons]
      omega
  | case4 e s hp ih =>
      rw [List.count_cons, List.count_cons]
      omega

theorem count_replace_lt (ho : c ∈ old) (hn : c ∉ new) {s : List Char} (h : old <:+: s) :
    (replace old new s).count c < s.count c := by
  induction s with
  | nil =>
      rw [List.infix_nil.1 h] at ho
      simp at ho
  | cons d s ih =>
      by_cases hp : old <+: d :: s
      · obtain ⟨t, ht⟩ := hp
        have hne : old ≠ [] := List.ne_nil_of_mem ho
        have hle : (replace old new t).count c ≤ t.count c := count_replaceFrom_le hn 0 t
        have hpos := List.count_pos_iff.2 ho
        rw [replace_cons_of_append hne ht.symm, ← ht, List.count_append, List.count_append,
          List.count_eq_zero.2 hn]
        omega
      · have hs := ih ((List.infix_cons_iff.1 h).resolve_left hp)
        rw [replace_cons_of_absent hp, List.count_cons, List.count_cons]
        omega

/-- A character on its own, or a mark with the `n` characters that it needs after it. -/
inductive IsSymbol (mark : Char) (n : Nat) : List Char → Prop
  | single {c : Char} (hc : c ≠ mark) : IsSymbol mark n [c]
  | marked {u : List Char} (hu : mark ∉ u) (hn : u.length = n) : IsSymbol mark n (mark :: u)

/-- A rewriting that takes a text symbol by symbol, and makes a symbol of each. -/
structure IsSymbolwise (mark : Char) (n : Nat) (f : List Char → List Char) : Prop where
  append : ∀ {w}, IsSymbol mark n w → ∀ s, f (w ++ s) = f w ++ f s
  symbol : ∀ {w}, IsSymbol mark n w → IsSymbol mark n (f w)

section

variable {mark : Char} {n : Nat} {u w : List Char} {f g : List Char → List Char}

theorem IsSymbolwise.comp (hg : IsSymbolwise mark n g) (hf : IsSymbolwise mark n f) :
    IsSymbolwise mark n (g ∘ f) where
  append hw s := by
    simp only [Function.comp_apply]
    rw [hf.append hw, hg.append (hf.symbol hw)]
  symbol hw := hg.symbol (hf.symbol hw)

theorem IsSymbolwise.flatMap {α : Type} {code : α → List Char} (hf : IsSymbolwise mark n f)
    (hc : ∀ a, IsSymbol mark n (code a)) (l : List α) (s : List Char) :
    f (l.flatMap code ++ s) = l.flatMap (fun a => f (code a)) ++ f s := by
  induction l with
  | nil => rfl
  | cons a l ih =>
      rw [List.flatMap_cons, List.append_assoc, hf.append (hc a), ih, List.flatMap_cons,
        List.append_assoc]

theorem IsSymbol.exists_cons (hw : IsSymbol mark n w) : ∃ d v, w = d :: v ∧ mark ∉ v := by
  cases hw with
  | @single d _ => exact ⟨d, [], rfl, List.not_mem_nil⟩
  | @marked v hv _ => exact ⟨mark, v, rfl, hv⟩

/-- A marked symbol is found where it is written, and never across two others. -/
theorem IsSymbol.prefix_append_iff (hw : IsSymbol mark n w) (hu : u.length = n) (s : List Char) :
    mark :: u <+: w ++ s ↔ w = mark :: u := by
  refine ⟨fun hp => ?_, fun h => h ▸ List.prefix_append (mark :: u) s⟩
  cases hw with
  | single hc => exact absurd (List.cons_prefix_cons.1 hp).1.symm hc
  | @marked v _ hn =>
      have hlength : u.length = v.length := hu.trans hn.symm
      have hv : u <+: v := List.prefix_of_prefix_length_le (List.cons_prefix_cons.1 hp).2
        (List.prefix_append v s) (Nat.le_of_eq hlength)
      rw [hv.eq_of_length hlength]

theorem not_infix_flatten {ws : List (List Char)} (hu : u.length = n)
    (hws : ∀ w ∈ ws, IsSymbol mark n w ∧ w ≠ mark :: u) : ¬mark :: u <:+: ws.flatten := by
  induction ws with
  | nil => simp
  | cons w ws ih =>
      rw [List.forall_mem_cons] at hws
      obtain ⟨⟨hw, hne⟩, hws⟩ := hws
      have hp : ¬mark :: u <+: w ++ ws.flatten := fun hp => hne ((hw.prefix_append_iff hu _).1 hp)
      obtain ⟨d, v, rfl, hv⟩ := hw.exists_cons
      rw [List.flatten_cons, List.cons_append, List.infix_cons_iff]
      rintro (h | h)
      · exact hp h
      · exact ih hws (infix_of_append hv h)

theorem replace_symbol_append (hw : IsSymbol mark n w) (hu : u.length = n) (s : List Char) :
    replace (mark :: u) new (w ++ s) =
      (if w = mark :: u then new else w) ++ replace (mark :: u) new s := by
  by_cases h : w = mark :: u
  · rw [if_pos h, h, List.cons_append,
      replace_cons_of_append (List.cons_ne_nil mark u) (List.cons_append (a := mark)).symm]
  · have hp : ¬mark :: u <+: w ++ s := fun hp => h ((hw.prefix_append_iff hu s).1 hp)
    rw [if_neg h]
    obtain ⟨d, v, rfl, hv⟩ := hw.exists_cons
    rw [List.cons_append] at hp ⊢
    rw [replace_cons_of_absent hp, replace_append_of_notMem hv, List.cons_append]

theorem replace_symbol (hw : IsSymbol mark n w) (hu : u.length = n) :
    replace (mark :: u) new w = if w = mark :: u then new else w := by
  have h := @replace_symbol_append new mark n u w hw hu []
  rwa [List.append_nil, replace_eq_of_absent (by simp) (s := []), List.append_nil] at h

theorem isSymbolwise_replace (hu : u.length = n) (hn : IsSymbol mark n new) :
    IsSymbolwise mark n (replace (mark :: u) new) where
  append hw s := by rw [replace_symbol_append hw hu, replace_symbol hw hu]
  symbol hw := by
    rw [replace_symbol hw hu]
    split
    · exact hn
    · exact hw

end

end ResourceQuery.Text
