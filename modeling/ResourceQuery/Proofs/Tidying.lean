import Mathlib
import ResourceQuery.Proofs.Limits

namespace ResourceQuery

open Outcome

namespace Piece

variable {e : Char}

def counted (letters : List Char) (last : Option (List Char)) : List Piece :=
  letters.map char ++ (last.map group).toList

def countedText (letters : List Char) (last : Option (List Char)) : List Char :=
  letters ++ (last.map fun b => '(' :: b ++ [')']).getD []

/-- The text with each segment written as it counts. `letters` and `last` are the characters and
the last group that the segment under way has so far. -/
def tidyFrom (e : Char) (letters : List Char) (last : Option (List Char)) (s : List Char) :
    List Char :=
  match s with
  | [] => countedText letters last
  | c :: s =>
      match Joiner.ofChar? c with
      | some _ => countedText letters last ++ c :: tidyFrom e [] none s
      | none =>
          if c = '(' then
            match _h : Group.scan e .plain 0 s with
            | some g => tidyFrom e letters (some g.raw) g.rest
            | none => countedText letters last ++ c :: s
          else tidyFrom e (letters ++ [c]) last s
termination_by s.length
decreasing_by
  · simp
  · have := Group.scan_rest_length ‹_›
    simp only [List.length_cons]
    omega
  · simp

def tidy (e : Char) (s : List Char) : List Char := tidyFrom e [] none s

section

variable {letters s : List Char} {last : Option (List Char)}

theorem tidyFrom_joiner {c : Char} {j : Joiner} (h : Joiner.ofChar? c = some j) :
    tidyFrom e letters last (c :: s) = countedText letters last ++ c :: tidyFrom e [] none s := by
  rw [tidyFrom, h]

theorem tidyFrom_char {c : Char} (h : IsNameChar c) :
    tidyFrom e letters last (c :: s) = tidyFrom e (letters ++ [c]) last s := by
  rw [tidyFrom, h.1]
  simp only [if_neg h.2]

theorem tidyFrom_group {g : Group} (h : Group.scan e .plain 0 s = some g) :
    tidyFrom e letters last ('(' :: s) = tidyFrom e letters (some g.raw) g.rest := by
  rw [tidyFrom]
  simp only [show Joiner.ofChar? '(' = none by decide, if_true]
  split
  · rename_i g' h'
    obtain rfl := Option.some.inj (h.symm.trans h')
    rfl
  · rename_i h'
    simp [h] at h'

theorem tidyFrom_unclosed (h : Group.scan e .plain 0 s = none) :
    tidyFrom e letters last ('(' :: s) = countedText letters last ++ '(' :: s := by
  rw [tidyFrom]
  simp only [show Joiner.ofChar? '(' = none by decide, if_true]
  split
  · rename_i g h'
    simp [h] at h'
  · rfl

end

/-- Nothing stands between a group and the joiner after it, so that no segment has two groups. -/
def IsTidy : List Piece → Prop
  | [] => True
  | group _ :: ps => (∀ p ∈ ps.head?, ∃ j, p = joiner j) ∧ IsTidy ps
  | _ :: ps => IsTidy ps

theorem isTidy_counted {letters : List Char} {last : Option (List Char)} {ps : List Piece} :
    IsTidy (counted letters last ++ ps) ↔
      (last.isSome → ∀ p ∈ ps.head?, ∃ j, p = joiner j) ∧ IsTidy ps := by
  induction letters with
  | nil => cases last <;> simp [counted, IsTidy]
  | cons c letters ih => exact ih

theorem counted_snoc (letters : List Char) (c : Char) (ps : List Piece) :
    counted letters none ++ char c :: ps = counted (letters ++ [c]) none ++ ps := by
  simp [counted]

theorem counted_group (letters b : List Char) (ps : List Piece) :
    counted letters none ++ group b :: ps = counted letters (some b) ++ ps := by
  simp [counted]

theorem tidyFrom_eq_append {letters s : List Char} {last : Option (List Char)}
    (h : IsTidy (counted letters last ++ ofText e s)) :
    tidyFrom e letters last s = countedText letters last ++ s := by
  fun_induction ofText e s generalizing letters last with
  | case1 => rw [tidyFrom, List.append_nil]
  | case2 c s j hj ih =>
      have hs : tidyFrom e [] none s = s := @ih [] none (isTidy_counted.1 h).2
      rw [tidyFrom_joiner hj, hs]
  | case3 s g hg hn ih =>
      cases last with
      | some b => simp [isTidy_counted] at h
      | none =>
          rw [counted_group] at h
          rw [tidyFrom_group hg, ih h, Group.scan_eq_some_append hg]
          simp [countedText]
  | case4 s hg => exact tidyFrom_unclosed hg
  | case5 c s hn hc ih =>
      cases last with
      | some b => simp [isTidy_counted] at h
      | none =>
          rw [counted_snoc] at h
          rw [tidyFrom_char ⟨hn, hc⟩, ih h]
          simp [countedText]

def tidied (letters : List Char) (last : Option (List Char)) : List Piece → List Piece
  | [] => counted letters last
  | char c :: ps => tidied (letters ++ [c]) last ps
  | group b :: ps => tidied letters (some b) ps
  | joiner j :: ps => counted letters last ++ joiner j :: tidied [] none ps
  | unclosed s :: ps => counted letters last ++ unclosed s :: ps

theorem isTidy_tidied (letters : List Char) (last : Option (List Char)) {ps : List Piece}
    (h : ∀ s, unclosed s ∉ ps) : IsTidy (tidied letters last ps) := by
  induction ps generalizing letters last with
  | nil =>
      have hs : IsTidy (counted letters last ++ []) := isTidy_counted.2 ⟨by simp, trivial⟩
      rwa [List.append_nil] at hs
  | cons p ps ih =>
      have hps : ∀ s, unclosed s ∉ ps := fun s hs => h s (List.mem_cons_of_mem p hs)
      cases p with
      | char c => exact ih _ _ hps
      | group b => exact ih _ _ hps
      | unclosed s => exact absurd List.mem_cons_self (h s)
      | joiner j => exact isTidy_counted.2 ⟨by simp, ih [] none hps⟩

structure IsBody (e : Char) (b : List Char) : Prop where
  passes : ∃ y, Group.Passes e b y
  closing : ')' ≠ e

theorem isBody_of_scan {s : List Char} {g : Group} (h : Group.scan e .plain 0 s = some g) :
    IsBody e g.raw := ⟨⟨_, Group.passes_of_scan h⟩, Group.closing_ne_of_scan h⟩

theorem isBody_of_mem_ofText {s b : List Char} (h : group b ∈ ofText e s) : IsBody e b := by
  fun_induction ofText e s with
  | case1 => simp at h
  | case2 c s j hj ih => exact ih (by simpa using h)
  | case3 s g hg hn ih =>
      simp only [List.mem_cons, group.injEq] at h
      rcases h with rfl | h
      · exact isBody_of_scan hg
      · exact ih h
  | case4 => simp at h
  | case5 c s hn hc ih => exact ih (by simpa using h)

theorem ofText_countedText {letters : List Char} {last : Option (List Char)}
    (hl : ∀ c ∈ letters, IsNameChar c) (hb : ∀ b ∈ last, IsBody e b) (s : List Char) :
    ofText e (countedText letters last ++ s) = counted letters last ++ ofText e s := by
  cases last with
  | none => simp [countedText, counted, ofText_chars hl]
  | some b =>
      obtain ⟨⟨y, hy⟩, hc⟩ := hb b rfl
      have hg := @ofText_group e s b y hy hc
      simp only [countedText, counted, Option.map_some, Option.getD_some, Option.toList_some,
        List.append_assoc, List.singleton_append]
      rw [ofText_chars hl, hg]

theorem ofText_unclosed {s : List Char} (h : Group.scan e .plain 0 s = none) :
    ofText e ('(' :: s) = [unclosed ('(' :: s)] := by
  rw [ofText]
  simp only [show Joiner.ofChar? '(' = none by decide, if_true]
  split
  · rename_i g h'
    simp [h] at h'
  · rfl

theorem ofText_tidyFrom {letters s : List Char} {last : Option (List Char)}
    (hl : ∀ c ∈ letters, IsNameChar c) (hb : ∀ b ∈ last, IsBody e b) :
    ofText e (tidyFrom e letters last s) = tidied letters last (ofText e s) := by
  fun_induction ofText e s generalizing letters last with
  | case1 =>
      have hs := ofText_countedText hl hb []
      rw [List.append_nil, ofText, List.append_nil] at hs
      rw [tidyFrom, hs, tidied]
  | case2 c s j hj ih =>
      rw [tidyFrom_joiner hj, ofText_countedText hl hb, ofText_joiner hj, tidied,
        @ih [] none (by simp) (by simp)]
  | case3 s g hg hn ih =>
      rw [tidyFrom_group hg, tidied]
      exact ih hl (by simpa using isBody_of_scan hg)
  | case4 s hg => rw [tidyFrom_unclosed hg, ofText_countedText hl hb, ofText_unclosed hg, tidied]
  | case5 c s hn hc ih =>
      rw [tidyFrom_char ⟨hn, hc⟩, tidied]
      refine ih (fun d hd => ?_) hb
      rcases List.mem_append.1 hd with hd | hd
      · exact hl d hd
      · exact List.mem_singleton.1 hd ▸ ⟨hn, hc⟩

end Piece

namespace Query

open Piece

variable {body : Nat → List Char → Except Fault (List Term)} {limit room : Nat}

/-- What follows a joiner is gathered by itself, and goes into the call in one way only. -/
theorem exists_of_gather_joiner {gathered : Option Aggregate} {current c : Call} {j : Joiner}
    {ps : List Piece} (h : gather body limit room gathered current (.joiner j :: ps) = .ok c) :
    ∃ r ≤ room, ∃ a d, gather body limit r (some a) .empty ps = .ok d ∧
      ∀ qs, gather body limit r (some a) .empty qs = .ok d →
        gather body limit room gathered current (.joiner j :: qs) = .ok c := by
  cases gathered with
  | none => exact ⟨room, Nat.le_refl _, _, c, gather_first ▸ h, fun qs hq => gather_first ▸ hq⟩
  | some a =>
      by_cases hj : a.joiner = j
      · rw [gather_same hj] at h
        exact ⟨room, Nat.le_refl _, _, c, h, fun qs hq => gather_same hj ▸ hq⟩
      · cases room with
        | zero => simp [gather_other_zero hj] at h
        | succ room =>
            rw [gather_other hj, map_eq_ok] at h
            obtain ⟨d, hd, rfl⟩ := h
            refine ⟨room, Nat.le_succ _, _, d, hd, fun qs hq => ?_⟩
            rw [gather_other hj, hq]
            rfl

/-- Every group of an accepted text has been read, whether or not it counts. -/
theorem exists_of_gather {gathered : Option Aggregate} {current c : Call} {ps : List Piece}
    (h : gather body limit room gathered current ps = .ok c) :
    (∀ s, unclosed s ∉ ps) ∧ ∀ b, group b ∈ ps → ∃ r ≤ room, ∃ args, body r b = .ok args := by
  induction ps generalizing room gathered current c with
  | nil => simp
  | cons p ps ih =>
      cases p with
      | char d =>
          rw [gather] at h
          simpa using ih h
      | group b =>
          rw [gather] at h
          obtain ⟨args, hb, h⟩ := bind_eq_ok.1 h
          obtain ⟨hu, hg⟩ := ih h
          refine ⟨by simpa using hu, fun d hd => ?_⟩
          simp only [List.mem_cons, group.injEq] at hd
          rcases hd with rfl | hd
          · exact ⟨room, Nat.le_refl _, args, hb⟩
          · exact hg d hd
      | unclosed s => simp [gather] at h
      | joiner j =>
          obtain ⟨r, hr, a, d, hd, -⟩ := exists_of_gather_joiner h
          obtain ⟨hu, hg⟩ := ih hd
          refine ⟨by simpa using hu, fun b hb => ?_⟩
          obtain ⟨k, hk, args, hargs⟩ := hg b (by simpa using hb)
          exact ⟨k, Nat.le_trans hk hr, args, hargs⟩

theorem gather_counted {gathered : Option Aggregate} {letters : List Char}
    {last : Option (List Char)} {args : List Term}
    (h : (last.map (body room)).getD (.ok []) = .ok args) (ps : List Piece) :
    gather body limit room gathered .empty (counted letters last ++ ps) =
      gather body limit room gathered ⟨String.ofList letters, args⟩ ps := by
  rw [counted, List.append_assoc, gather_chars]
  cases last with
  | none =>
      obtain rfl := Except.ok.inj h
      rfl
  | some b =>
      rw [Option.map_some, Option.getD_some] at h
      rw [Option.map_some, Option.toList_some, List.singleton_append, gather, h]
      rfl

/-- A group that another one follows in its segment is read and forgotten. -/
theorem gather_tidied {gathered : Option Aggregate} {letters : List Char}
    {last : Option (List Char)} {args : List Term} {ps : List Piece} {c : Call}
    (hl : (last.map (body room)).getD (.ok []) = .ok args)
    (h : gather body limit room gathered ⟨String.ofList letters, args⟩ ps = .ok c) :
    gather body limit room gathered .empty (tidied letters last ps) = .ok c := by
  induction ps generalizing room gathered letters last args c with
  | nil =>
      have hs := @gather_counted body limit room gathered letters last args hl []
      rw [List.append_nil] at hs
      rw [tidied, hs, h]
  | cons p ps ih =>
      cases p with
      | char d =>
          rw [gather] at h
          exact ih hl (by simpa using h)
      | group b =>
          rw [gather] at h
          obtain ⟨args, hb, h⟩ := bind_eq_ok.1 h
          exact ih hb h
      | unclosed s => simp [gather] at h
      | joiner j =>
          obtain ⟨r, -, a, d, hd, hs⟩ := exists_of_gather_joiner h
          rw [tidied, gather_counted hl]
          exact hs _ (@ih r (some a) [] none [] d rfl hd)

/-- The text as it counts is read in place of the text. -/
theorem readExpanded_tidy {tags : TagTable} {o : Options} {text : String} {c : Call}
    (h : readExpanded tags o text = .ok c) :
    IsTidy (ofText o.escape (tidy o.escape text.toList)) ∧
    readExpanded tags o (String.ofList (tidy o.escape text.toList)) = .ok c ∧
    (tidy o.escape text.toList = text.toList ↔ IsTidy (ofText o.escape text.toList)) ∧
    ∀ b, group b ∈ ofText o.escape text.toList →
      ∃ args, readExpanded tags o (String.ofList ('(' :: b ++ [')'])) = .ok ⟨"", args⟩ := by
  have hp : ofText o.escape (tidy o.escape text.toList) =
      tidied [] none (ofText o.escape text.toList) := ofText_tidyFrom (by simp) (by simp)
  rw [readExpanded, readCall_succ] at h
  obtain ⟨hu, hg⟩ := exists_of_gather h
  have ht : IsTidy (ofText o.escape (tidy o.escape text.toList)) :=
    hp ▸ isTidy_tidied [] none hu
  refine ⟨ht, ?_, ⟨fun he => he ▸ ht, fun hs => tidyFrom_eq_append hs⟩, fun b hb => ?_⟩
  · rw [readExpanded, readCall_succ, String.toList_ofList, hp]
    exact gather_tidied rfl h
  · obtain ⟨r, hr, args, hargs⟩ := hg b hb
    obtain ⟨⟨y, hy⟩, hc⟩ := isBody_of_mem_ofText hb
    have hl := Nat.le_refl o.maxDepth
    have hbody := (upTo_readBody_of_le hl hl hr b).eq_ok hargs
    have hcall := @readCall_call tags o o.maxDepth o.maxDepth [] b y (by simp) hy hc
    refine ⟨args, ?_⟩
    rw [readExpanded, String.toList_ofList, ← List.nil_append ('(' :: b ++ [')']), hcall, hbody]
    rfl

/-- The call in the first group is lost, and the name goes on after it. -/
theorem readExpanded_two_groups :
    readExpanded .standard .default "a(b())c(d())" = .ok ⟨"ac", [.call "d" []]⟩ ∧
      ¬IsTidy (ofText '\\' "a(b())c(d())".toList) := by
  have hp : ofText '\\' "a(b())c(d())".toList =
      [.char 'a', .group ['b', '(', ')'], .char 'c', .group ['d', '(', ')']] := by cbv
  refine ⟨by cbv, ?_⟩
  rw [hp]
  simp [IsTidy]

theorem readExpanded_tidy_two_groups :
    readExpanded .standard .default "a(b())c(d())" = .ok ⟨"ac", [.call "d" []]⟩ ∧
      readExpanded .standard .default "ac(d())" = .ok ⟨"ac", [.call "d" []]⟩ := by
  have h : readExpanded .standard .default "a(b())c(d())" = .ok ⟨"ac", [.call "d" []]⟩ := by cbv
  have ht : tidy '\\' "a(b())c(d())".toList = "ac(d())".toList := by cbv
  have hr := (readExpanded_tidy (o := .default) h).2.1
  rw [show Options.default.escape = '\\' from rfl, ht, String.ofList_toList] at hr
  exact ⟨h, hr⟩

end Query

end ResourceQuery
