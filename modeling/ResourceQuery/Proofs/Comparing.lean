import ResourceQuery.Proofs.Expansion

namespace ResourceQuery.Shorthand

open Outcome Text

variable {c d : Char} {p : Char → Bool}

theorem takeWhile_append_stop (hc : ¬p c) (x y : List Char) :
    (x ++ c :: y).takeWhile p = x.takeWhile p := by
  rw [List.takeWhile_append, List.takeWhile_cons_of_neg hc, List.append_nil]
  split
  · rename_i h
    exact ((List.takeWhile_prefix p).eq_of_length h).symm
  · rfl

theorem dropWhile_append_stop (hc : ¬p c) (x y : List Char) :
    (x ++ c :: y).dropWhile p = x.dropWhile p ++ c :: y := by
  rw [List.dropWhile_append, List.dropWhile_cons_of_neg hc]
  split
  · rename_i h
    rw [List.isEmpty_iff.1 h, List.nil_append]
  · rfl

theorem drop_takeWhile (p : Char → Bool) (s : List Char) :
    s.drop (s.takeWhile p).length = s.dropWhile p := by
  have h := @List.drop_left _ (s.takeWhile p) (s.dropWhile p)
  rwa [List.takeWhile_append_dropWhile] at h

theorem sign?_alone {s : List Char} (hd : d ≠ '=') (hs : s.head? ≠ some '=') :
    sign? (d :: s) = if d = '<' ∨ d = '>' then some ([d], s) else none := by
  unfold sign?
  split <;> simp_all

theorem sign?_equal (hd : d ≠ '=') (s : List Char) :
    sign? (d :: '=' :: s) =
      if d = '<' ∨ d = '>' ∨ d = '!' then some (withWord [d, '='] s) else none := by
  split
  · rename_i h
    rcases h with rfl | rfl | rfl <;> rfl
  · unfold sign?
    split <;> simp_all

theorem sign?_cons_eq_none {s : List Char} (hd : d ∉ ['=', '<', '>', '!']) :
    sign? (d :: s) = none := by
  unfold sign?
  split <;> simp_all

/-- A character that no comparison has and no group beside one. -/
structure IsSeparator (c : Char) : Prop where
  ident : ¬isIdent c
  mark : c ∉ ['(', ')', ',', '=', '<', '>', '!']

abbrev before (y : List Char) (taken : List Char × List Char) : List Char × List Char :=
  (taken.1, taken.2 ++ y)

def Window.before (y : List Char) (w : Window) : Window := { w with rest := w.rest ++ y }

theorem Window.call_before (y : List Char) (w : Window) : (w.before y).call = w.call := rfl

theorem ident_append_stop (hc : ¬isIdent c) (x y : List Char) :
    ident (x ++ c :: y) = before (c :: y) (ident x) := by
  rw [ident, takeWhile_append_stop hc, dropWhile_append_stop hc]
  rfl

namespace IsSeparator

theorem ne (hc : IsSeparator c) (hd : d ∈ ['(', ')', ',', '=', '<', '>', '!']) : c ≠ d := by
  rintro rfl
  exact hc.mark hd

theorem group?_append (hc : IsSeparator c) (x y : List Char) :
    group? (x ++ c :: y) = (group? x).map (before (c :: y)) := by
  match x with
  | [] => exact group?_eq_none (hc.ne (by decide))
  | d :: x =>
      by_cases hd : d = '('
      · have hi : ¬(isIdent c || c == ',') := by simp [hc.ident, hc.ne (d := ',') (by decide)]
        have ht := takeWhile_append_stop (p := fun e => isIdent e || e == ',') hi x y
        have hr := dropWhile_append_stop (p := fun e => isIdent e || e == ',') hi x y
        rw [hd, List.cons_append]
        simp only [group?, drop_takeWhile]
        rw [ht, hr]
        cases x.takeWhile fun e => isIdent e || e == ',' with
        | nil => rfl
        | cons a body =>
            cases x.dropWhile fun e => isIdent e || e == ',' with
            | nil => simp [hc.ne (d := ')') (by decide)]
            | cons e rest =>
                by_cases he : e = ')'
                · rw [he]
                  rfl
                · simp [he]
      · rw [List.cons_append, group?_eq_none hd, group?_eq_none hd]
        rfl

theorem withWord_append (hc : IsSeparator c) (sign x y : List Char) :
    withWord sign (x ++ c :: y) = before (c :: y) (withWord sign x) := by
  have hw : ¬isWord c := fun h => hc.ident (isIdent_of_isWord h)
  simp only [withWord, drop_takeWhile]
  rw [takeWhile_append_stop hw, dropWhile_append_stop hw]
  cases x.dropWhile isWord with
  | nil => simp [hc.ne (d := '=') (by decide)]
  | cons e rest =>
      by_cases he : e = '='
      · rw [he]
        rfl
      · simp [he]

theorem sign?_append (hc : IsSeparator c) (x y : List Char) :
    sign? (x ++ c :: y) = (sign? x).map (before (c :: y)) := by
  have hne : (c :: y).head? ≠ some '=' := by simpa using hc.ne (by decide)
  match x with
  | [] => exact sign?_cons_eq_none fun h => hc.mark (by simp_all)
  | d :: x =>
      by_cases hd : d = '='
      · rw [hd]
        exact congrArg some (hc.withWord_append ['='] x y)
      · match x with
        | [] =>
            rw [List.singleton_append, sign?_alone hd hne, sign?_alone hd (by simp)]
            split <;> rfl
        | e :: x =>
            by_cases he : e = '='
            · rw [he, List.cons_append, List.cons_append, sign?_equal hd, sign?_equal hd,
                hc.withWord_append]
              split <;> rfl
            · rw [List.cons_append, List.cons_append, sign?_alone hd (by simpa using he),
                sign?_alone hd (by simpa using he)]
              split <;> rfl

theorem after?_append (hc : IsSeparator c) (p x y : List Char) :
    Window.after? p (x ++ c :: y) = (Window.after? p x).map (Window.before (c :: y)) := by
  simp only [Window.after?, hc.sign?_append]
  cases sign? x with
  | none => rfl
  | some taken =>
      obtain ⟨sign, rest⟩ := taken
      simp only [Option.map_some, Option.bind_eq_bind, Option.bind_some, hc.group?_append,
        ident_append_stop hc.ident]
      cases group? rest <;> rfl

theorem window?_append (hc : IsSeparator c) (x y : List Char) :
    window? (x ++ c :: y) = (window? x).map (Window.before (c :: y)) := by
  simp only [window?, hc.group?_append, ident_append_stop hc.ident, hc.after?_append]
  cases group? x with
  | none => rfl
  | some g =>
      simp only [Option.map_some, Option.bind_some, hc.after?_append]
      cases Window.after? g.1 g.2 <;> rfl

theorem expandFrom_append (hc : IsSeparator c) (x y : List Char) :
    expandFrom (x ++ c :: y) = do
      let a ← expandFrom x
      let b ← expandFrom y
      return a ++ c :: b := by
  fun_induction expandFrom x with
  | case1 x w hw ih =>
      have hw' : window? (x ++ c :: y) = some (w.before (c :: y)) := by
        rw [hc.window?_append, hw, Option.map_some]
      rw [expandFrom_window hw', Window.call_before]
      cases w.call with
      | error e => rfl
      | ok call =>
          simp only [ok_bind, Window.before, ih]
          cases expandFrom w.rest with
          | error e => rfl
          | ok a =>
              simp only [ok_bind, pure_eq]
              cases expandFrom y <;> simp
  | case2 hw =>
      have hn : window? (c :: y) = none := by
        simpa [hw] using hc.window?_append [] y
      exact expandFrom_cons hn
  | case3 d x hw ih =>
      have hn : window? (d :: (x ++ c :: y)) = none := by
        simpa [hw] using hc.window?_append (d :: x) y
      rw [List.cons_append, expandFrom_cons hn, ih]
      cases expandFrom x with
      | error e => rfl
      | ok a =>
          simp only [ok_bind, pure_eq]
          cases expandFrom y <;> simp

theorem decodeBrackets_append (hc : IsSeparator c) (x y : List Char) :
    decodeBrackets (x ++ c :: y) = decodeBrackets x ++ c :: decodeBrackets y := by
  have hi {d : Char} (hd : isIdent d) : c ≠ d := by
    rintro rfl
    exact hc.ident hd
  refine Shorthand.decodeBrackets_append ?_ x y
  simp [hi (d := '%') (by decide), hi (d := '3') (by decide), hi (d := 'C') (by decide),
    hi (d := 'E') (by decide), hc.ne (d := '=') (by decide)]

theorem expand_append (hc : IsSeparator c) (x y : String) :
    expand (x ++ String.singleton c ++ y) = do
      let a ← expand x
      let b ← expand y
      return a ++ String.singleton c ++ b := by
  have ht : (x ++ String.singleton c ++ y).toList = x.toList ++ c :: y.toList := by simp
  rw [expand, ht, hc.decodeBrackets_append, hc.expandFrom_append, expand, expand]
  cases expandFrom (decodeBrackets x.toList) with
  | error e => rfl
  | ok a =>
      cases expandFrom (decodeBrackets y.toList) with
      | error e => rfl
      | ok b => exact congrArg Except.ok (String.toList_inj.1 (by simp))

end IsSeparator

/-- What is taken whole beside a sign. -/
inductive IsOperand : List Char → Prop
  | run {s : List Char} : s ≠ [] → (∀ c ∈ s, isIdent c) → IsOperand s
  | group {s : List Char} : s ≠ [] → (∀ c ∈ s, isIdent c ∨ c = ',') → IsOperand ('(' :: s ++ [')'])

/-- The signs of comparisons, with the names they stand for. -/
inductive Names : String → String → Prop
  | equal : Names "=" "eq"
  | equal_equal : Names "==" "eq"
  | not_equal : Names "!=" "ne"
  | less : Names "<" "lt"
  | less_equal : Names "<=" "le"
  | greater : Names ">" "gt"
  | greater_equal : Names ">=" "ge"
  | word {w : String} : w.toList ≠ [] → (∀ c ∈ w.toList, isWord c) → Names ("=" ++ w ++ "=") w

theorem IsOperand.notMem_equal {v : List Char} (hv : IsOperand v) : '=' ∉ v := by
  have hi {s : List Char} (hs : ∀ c ∈ s, isIdent c ∨ c = ',') : '=' ∉ s := fun hm =>
    absurd (hs _ hm) (by decide)
  cases hv with
  | run _ hs => exact hi fun c hc => .inl (hs c hc)
  | group _ hs => simpa using hi hs

theorem withWord_eq_self {sign v : List Char} (hv : '=' ∉ v) : withWord sign v = (sign, v) := by
  simp only [withWord, drop_takeWhile]
  split
  · rename_i rest hr
    exact absurd ((List.dropWhile_sublist _).subset (hr ▸ List.mem_cons_self)) hv
  · rfl

theorem withWord_word {w : List Char} (sign v : List Char) (hw : ∀ c ∈ w, isWord c) :
    withWord sign (w ++ '=' :: v) = (sign ++ w ++ ['='], v) := by
  have hs : ¬isWord '=' := by decide
  simp only [withWord, drop_takeWhile]
  rw [takeWhile_append_stop hs, dropWhile_append_stop hs, List.takeWhile_eq_self_iff.2 hw,
    List.dropWhile_eq_nil_iff.2 hw]
  rfl

theorem Names.sign? {sign name : String} (h : Names sign name) {v : List Char} (hv : '=' ∉ v) :
    sign? (sign.toList ++ v) = some (sign.toList, v) := by
  have hhead : v.head? ≠ some '=' := fun h => hv (List.mem_of_mem_head? h)
  cases h with
  | equal => exact congrArg some (withWord_eq_self hv)
  | equal_equal => exact congrArg some (withWord_word ['='] v (w := []) (by simp))
  | not_equal => exact congrArg some (withWord_eq_self hv)
  | less => exact sign?_alone (by decide) hhead
  | less_equal => exact congrArg some (withWord_eq_self hv)
  | greater => exact sign?_alone (by decide) hhead
  | greater_equal => exact congrArg some (withWord_eq_self hv)
  | @word w _ hw =>
      have ht : ("=" ++ name ++ "=").toList = '=' :: (name.toList ++ ['=']) := by simp
      rw [ht, List.cons_append, List.append_assoc]
      exact congrArg some (withWord_word ['='] v hw)

theorem Names.callName {sign name : String} (h : Names sign name) :
    callName sign.toList = .ok name.toList := by
  cases h with
  | word hne hw =>
      have ht : ("=" ++ name ++ "=").toList = '=' :: (name.toList ++ ['=']) := by simp
      have hl := List.length_pos_of_ne_nil hne
      have hall : name.toList.all isWord := List.all_eq_true.2 hw
      rw [ht, Shorthand.callName, if_neg (by simp; omega)]
      simp [hall, hne]
  | _ => rfl

theorem Names.noBracket {sign name : String} (h : Names sign name) {p v : List Char}
    (hp : NoBracket p) (hv : NoBracket v) : NoBracket (p ++ (sign.toList ++ v)) := by
  have hn : NoBracket [] := noBracket_of_notMem (by simp)
  cases h with
  | word _ hw =>
      have ht : ("=" ++ name ++ "=").toList = '=' :: (name.toList ++ ['=']) := by simp
      have hb := noBracket_of_notMem fun hm => absurd (hw '%' hm) (by decide)
      rw [ht, List.cons_append, List.append_assoc]
      exact hp.append_cons (by decide) (hb.append_cons (by decide) hv)
  | equal | less | greater => exact hp.append_cons (by decide) hv
  | _ => exact hp.append_cons (by decide) (hn.append_cons (by decide) hv)

theorem Window.head_of_after? {p s : List Char} {w : Window} (h : after? p s = some w) :
    ∃ d t, s = d :: t ∧ ¬isIdent d := by
  obtain ⟨sign, rest, hs, -⟩ := exists_of_after? h
  cases s with
  | nil => simp [sign?] at hs
  | cons d t =>
      refine ⟨d, t, rfl, fun hi => ?_⟩
      have hd : d ∉ ['=', '<', '>', '!'] := by
        intro hm
        simp only [List.mem_cons, List.not_mem_nil, or_false] at hm
        rcases hm with rfl | rfl | rfl | rfl <;> exact absurd hi (by decide)
      simp [sign?_cons_eq_none hd] at hs

theorem group?_members {s : List Char} (hne : s ≠ []) (hs : ∀ c ∈ s, isIdent c ∨ c = ',')
    (rest : List Char) : group? ('(' :: s ++ [')'] ++ rest) = some ('(' :: s ++ [')'], rest) := by
  obtain ⟨a, s, rfl⟩ := List.exists_cons_of_ne_nil hne
  have hm : ∀ c ∈ a :: s, (isIdent c || c == ',') = true := fun c hc => by simpa using hs c hc
  have hc : ¬(isIdent ')' || ')' == ',') := by decide
  have ht := takeWhile_append_stop (p := fun e => isIdent e || e == ',') hc (a :: s) rest
  have hr := dropWhile_append_stop (p := fun e => isIdent e || e == ',') hc (a :: s) rest
  rw [List.takeWhile_eq_self_iff.2 hm] at ht
  rw [List.dropWhile_eq_nil_iff.2 hm] at hr
  have hx : '(' :: (a :: s) ++ [')'] ++ rest = '(' :: (a :: s ++ ')' :: rest) := by simp
  rw [hx]
  simp only [group?, drop_takeWhile]
  rw [ht, hr]
  rfl

namespace IsOperand

theorem value {v : List Char} (hv : IsOperand v) : (group? v).getD (ident v) = (v, []) := by
  cases hv with
  | run hne hs =>
      obtain ⟨c, s, rfl⟩ := List.exists_cons_of_ne_nil hne
      rw [group?_eq_none (not_opening_of_isIdent (hs c List.mem_cons_self)), Option.getD_none, ident,
        List.takeWhile_eq_self_iff.2 hs, List.dropWhile_eq_nil_iff.2 hs]
  | group hne hs =>
      have hg := group?_members hne hs []
      rw [List.append_nil] at hg
      rw [hg, Option.getD_some]

theorem window? {p s : List Char} {w : Window} (hp : IsOperand p) (hs : Window.after? p s = some w) :
    window? (p ++ s) = some w := by
  cases hp with
  | run hne hi =>
      obtain ⟨c, p, rfl⟩ := List.exists_cons_of_ne_nil hne
      obtain ⟨d, s, rfl, hd⟩ := Window.head_of_after? hs
      have hident : ident (c :: p ++ d :: s) = (c :: p, d :: s) := by
        rw [ident_append_stop hd, ident, List.takeWhile_eq_self_iff.2 hi,
          List.dropWhile_eq_nil_iff.2 hi]
        rfl
      rw [Shorthand.window?, hident, List.cons_append,
        group?_eq_none (not_opening_of_isIdent (hi c List.mem_cons_self))]
      exact hs
  | group hne hi =>
      simp only [Shorthand.window?, group?_members hne hi, Option.bind_some, hs]

end IsOperand

theorem expand_comparison {p v sign name : String} (hp : IsOperand p.toList)
    (hv : IsOperand v.toList) (hbp : NoBracket p.toList) (hbv : NoBracket v.toList)
    (h : Names sign name) :
    expand (p ++ sign ++ v) = .ok (name ++ "(" ++ p ++ "," ++ v ++ ")") := by
  have ht : (p ++ sign ++ v).toList = p.toList ++ (sign.toList ++ v.toList) := by simp
  have ha : Window.after? p.toList (sign.toList ++ v.toList) =
      some ⟨p.toList, sign.toList, v.toList, []⟩ := by
    simp only [Window.after?, h.sign? hv.notMem_equal, Option.bind_eq_bind, Option.bind_some,
      hv.value]
    rfl
  rw [expand, ht, decodeBrackets_eq (h.noBracket hbp hbv), expandFrom_window (hp.window? ha),
    Window.call, h.callName, expandFrom_nil]
  exact congrArg Except.ok (String.toList_inj.1 (by simp))

/-- Each side of a separator is expanded by itself, and a sign between two operands becomes the
call of its name. -/
theorem expand_compositional :
    (∀ (c : Char) (x y : String), IsSeparator c →
      expand (x ++ String.singleton c ++ y) = do
        let a ← expand x
        let b ← expand y
        return a ++ String.singleton c ++ b) ∧
    ∀ p v sign name : String, IsOperand p.toList → IsOperand v.toList → NoBracket p.toList →
      NoBracket v.toList → Names sign name →
      expand (p ++ sign ++ v) = .ok (name ++ "(" ++ p ++ "," ++ v ++ ")") :=
  ⟨fun _ x y hc => hc.expand_append x y, fun _ _ _ _ hp hv hbp hbv h =>
    expand_comparison hp hv hbp hbv h⟩

theorem expand_compositional_joined :
    expand "a<=b&c=in=(d,e)" = .ok "le(a,b)&in(c,(d,e))" := by
  have hj := expand_compositional.1 '&' "a<=b" "c=in=(d,e)" ⟨by decide, by decide⟩
  have hl : expand "a<=b" = .ok "le(a,b)" :=
    expand_compositional.2 "a" "b" "<=" "le" (.run (by decide) (by decide))
      (.run (by decide) (by decide)) (noBracket_of_notMem (by decide))
      (noBracket_of_notMem (by decide)) .less_equal
  have hr : expand "c=in=(d,e)" = .ok "in(c,(d,e))" :=
    expand_compositional.2 "c" "(d,e)" ("=" ++ "in" ++ "=") "in" (.run (by decide) (by decide))
      (@IsOperand.group ['d', ',', 'e'] (by decide) (by decide)) (noBracket_of_notMem (by decide))
      (noBracket_of_notMem (by decide)) (.word (by decide) (by decide))
  rw [hl, hr] at hj
  exact hj

end ResourceQuery.Shorthand
