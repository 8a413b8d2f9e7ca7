import Mathlib
import ResourceQuery.Proofs.GroupBody
import ResourceQuery.Proofs.TermShape

namespace ResourceQuery

open Outcome Text

theorem Group.Ends.plain_of_nil {e : Char} {q : Quoting} (h : Group.Ends e q []) : q = .plain := by
  obtain ⟨y, h⟩ := h
  rw [List.nil_append] at h
  rcases hq : q.step e ')' with ⟨q', role⟩
  cases role with
  | literal | mark => simp [Group.scan, hq] at h
  | structural => exact (Quoting.step_structural hq).1

namespace Chunk

variable {e : Char} {limit room : Nat}

theorem blank_of_splitFrom_nil {q : Quoting} {read s : List Char} (hs : Group.Ends e q s)
    (h : splitFrom e limit room q read s = .ok []) :
    read = [] ∧ q = .plain ∧ ∀ c ∈ s, isBlank c := by
  fun_induction splitFrom e limit room q read s with
  | case1 room q read =>
      have hr : read = [] := by simpa using h
      exact ⟨hr, hs.plain_of_nil, by simp⟩
  | case2 room q read c s q' hq ih =>
      have hread := (ih (hs.literal hq) h).1
      simp at hread
  | case3 room q read c s q' hq ih =>
      have hplain := (ih (hs.mark hq) h).2.1
      have hescaped := (Quoting.step_mark hq).2.2
      simp [hplain] at hescaped
  | case4 | case5 | case6 => simp at h
  | case7 q read s q' g hg hr room hq ihi ihr =>
      obtain ⟨items, -, h⟩ := bind_eq_ok.1 h
      obtain ⟨rest, -, h⟩ := bind_eq_ok.1 h
      simp at h
  | case8 room q read s q' g hg hr hq ih =>
      obtain ⟨rfl, rfl, ho⟩ := Quoting.step_structural hq
      obtain ⟨g', hg', hrest⟩ := hs.opening ho
      obtain rfl := Option.some.inj (hg.symm.trans hg')
      have hread := (ih hrest h).1
      simp at hread
  | case9 room q read s q' hq hne ih =>
      obtain ⟨rest, -, h⟩ := bind_eq_ok.1 h
      simp at h
  | case10 room q read c s q' hq ho hc hb ih =>
      obtain ⟨rfl, rfl, -⟩ := Quoting.step_structural hq
      simp only [Bool.and_eq_true, List.isEmpty_iff] at hb
      obtain ⟨-, -, hs⟩ := ih (hs.structural hq ho) h
      exact ⟨hb.1, rfl, List.forall_mem_cons.2 ⟨hb.2, hs⟩⟩
  | case11 room q read c s q' hq ho hc hb ih =>
      have hread := (ih (hs.structural hq ho) h).1
      simp at hread

theorem ofBody_eq_nil_iff {b : List Char} (he : ¬isBlank e) (hb : Group.Ends e .plain b) :
    ofBody e limit b = .ok [] ↔ ∀ c ∈ b, isBlank c := by
  constructor
  · intro h
    exact (blank_of_splitFrom_nil hb h).2.2
  · intro h
    have hne : ∀ c, isBlank c → c ≠ e := by
      rintro c hc rfl
      exact he hc
    rw [ofBody, ← splitFrom_dropWhile hne, List.dropWhile_eq_nil_iff.2 h, splitFrom]
    rfl

mutual

def texts : Chunk → List String
  | text s => [s]
  | list items => textsAll items

def textsAll : List Chunk → List String
  | [] => []
  | c :: cs => texts c ++ textsAll cs

end

end Chunk

theorem Joiner.name_ne_empty (j : Joiner) : j.name ≠ "" := by
  cases j <;> decide

namespace Piece

/-- What counts of the text between two joiners: the characters outside its groups, and then its
last group. -/
structure Part where
  letters : List Char
  last : Option (List Char)

namespace Part

def empty : Part := ⟨[], none⟩

def IsBare (p : Part) : Prop := ∀ b ∈ p.last, ∀ c ∈ b, isBlank c

end Part

def partsFrom (p : Part) : List Piece → List Part
  | [] => [p]
  | char c :: ps => partsFrom ⟨p.letters ++ [c], p.last⟩ ps
  | group b :: ps => partsFrom ⟨p.letters, some b⟩ ps
  | joiner _ :: ps => p :: partsFrom .empty ps
  | unclosed _ :: _ => [p]

def parts (e : Char) (s : List Char) : List Part := partsFrom .empty (ofText e s)

theorem partsFrom_ne_nil (p : Part) (ps : List Piece) : partsFrom p ps ≠ [] := by
  induction ps generalizing p with
  | nil => simp [partsFrom]
  | cons q ps ih =>
      cases q with
      | char c => exact ih _
      | group b => exact ih _
      | joiner j | unclosed s => simp [partsFrom]

/-- A part without letters is dropped where it is one of several, unless it has arguments. -/
def IsLettered : List Part → Prop
  | [p] => p.letters ≠ []
  | ps => ∀ p ∈ ps, p.letters ≠ [] ∨ p.IsBare

theorem isLettered_cons {p : Part} {ps : List Part} (h : ps ≠ []) :
    IsLettered (p :: ps) ↔ (p.letters ≠ [] ∨ p.IsBare) ∧ ∀ q ∈ ps, q.letters ≠ [] ∨ q.IsBare := by
  obtain ⟨q, qs, rfl⟩ := List.exists_cons_of_ne_nil h
  simp [IsLettered]

end Piece

open Piece

namespace Query

/-- A text that is read as a call within a call of another text, in a group that counts. -/
def Embeds (o : Options) (s u : List Char) : Prop :=
  ∃ p ∈ parts o.escape s, ∃ b ∈ p.last, ∃ cs, Chunk.ofBody o.escape o.maxDepth b = .ok cs ∧
    ∃ v ∈ Chunk.textsAll cs, startsCall v.toList ∧ u = v.toList

end Query

namespace Term

def IsNamed (t : Term) : Prop := ∀ n ∈ t.names, n ≠ ""

def AreNamed (ts : List Term) : Prop := ∀ n ∈ namesAll ts, n ≠ ""

theorem areNamed_nil : AreNamed [] := by simp [AreNamed, namesAll]

theorem areNamed_cons {t : Term} {ts : List Term} :
    AreNamed (t :: ts) ↔ t.IsNamed ∧ AreNamed ts := by
  simp [AreNamed, IsNamed, namesAll, or_imp, forall_and]

theorem areNamed_append {ts us : List Term} :
    AreNamed (ts ++ us) ↔ AreNamed ts ∧ AreNamed us := by
  induction ts with
  | nil => simp [areNamed_nil]
  | cons t ts ih => rw [List.cons_append, areNamed_cons, areNamed_cons, ih, and_assoc]

theorem isNamed_call {name : String} {args : List Term} :
    (call name args).IsNamed ↔ name ≠ "" ∧ AreNamed args := by
  simp [AreNamed, IsNamed, names]

end Term

namespace Query

open Term

variable {tags : TagTable} {limit : Nat} {P : List Char → Prop}

def InBody (o : Options) (P : List Char → Prop) (b : List Char) : Prop :=
  ∀ cs, Chunk.ofBody o.escape o.maxDepth b = .ok cs →
    ∀ v ∈ Chunk.textsAll cs, startsCall v.toList → P v.toList

mutual

theorem isNamed_argument {leaf : String → Except Fault Value}
    {call : Nat → List Char → Except Fault Call}
    (hcall : ∀ room s c, call room s = .ok c → (c.toTerm.IsNamed ↔ P s)) (c : Chunk) {room : Nat}
    {t : Term} (h : argument leaf call limit room c = .ok t) :
    t.IsNamed ↔ ∀ v ∈ c.texts, startsCall v.toList → P v.toList := by
  match c with
  | .list items =>
      rw [argument] at h
      obtain ⟨ts, hts, h⟩ := bind_eq_ok.1 h
      rw [pure_eq, Except.ok.injEq] at h
      exact h ▸ areNamed_arguments hcall items hts
  | .text s =>
      by_cases hs : startsCall s.toList
      · by_cases hr : room < 2
        · simp [argument_tooDeep hs hr] at h
        · obtain ⟨room, rfl⟩ : ∃ r, room = r + 2 := ⟨room - 2, by omega⟩
          rw [argument_call hs] at h
          obtain ⟨c, hread, rfl⟩ := map_eq_ok.1 h
          simpa [Chunk.texts, hs] using hcall room s.toList c hread
      · rw [argument_leaf (Bool.eq_false_iff.2 hs)] at h
        obtain ⟨v, -, rfl⟩ := map_eq_ok.1 h
        simp [Chunk.texts, hs, IsNamed, names]

theorem areNamed_arguments {leaf : String → Except Fault Value}
    {call : Nat → List Char → Except Fault Call}
    (hcall : ∀ room s c, call room s = .ok c → (c.toTerm.IsNamed ↔ P s)) (cs : List Chunk)
    {room : Nat} {ts : List Term} (h : arguments leaf call limit room cs = .ok ts) :
    AreNamed ts ↔ ∀ v ∈ Chunk.textsAll cs, startsCall v.toList → P v.toList := by
  match cs with
  | [] =>
      rw [arguments, pure_eq, Except.ok.injEq] at h
      simp [← h, areNamed_nil, Chunk.textsAll]
  | c :: cs =>
      rw [arguments] at h
      obtain ⟨t, ht, h⟩ := bind_eq_ok.1 h
      obtain ⟨ts, hts, h⟩ := bind_eq_ok.1 h
      rw [pure_eq, Except.ok.injEq] at h
      rw [← h, areNamed_cons, isNamed_argument hcall c ht, areNamed_arguments hcall cs hts,
        Chunk.textsAll, List.forall_mem_append]

end

structure ReadOf (B : List Char → Prop) (p : Part) (c : Call) : Prop where
  name : c.name = String.ofList p.letters
  bare : c.args = [] ↔ p.IsBare
  args : AreNamed c.args ↔ ∀ b ∈ p.last, B b

variable {B : List Char → Prop}

theorem readOf_empty : ReadOf B .empty .empty := by
  constructor
  · rfl
  · simp [Call.empty, Part.empty, Part.IsBare]
  · simp [Call.empty, Part.empty, areNamed_nil]

theorem ReadOf.push {p : Part} {c : Call} (h : ReadOf B p c) (d : Char) :
    ReadOf B ⟨p.letters ++ [d], p.last⟩ ⟨c.name.push d, c.args⟩ := by
  constructor
  · rw [h.name]
    simp
  · exact h.bare
  · exact h.args

theorem ReadOf.name_ne {p : Part} {c : Call} (h : ReadOf B p c) : c.name ≠ "" ↔ p.letters ≠ [] := by
  rw [h.name]
  simp [String.ext_iff]

theorem ReadOf.add {p : Part} {c : Call} (h : ReadOf B p c) (a : Aggregate) :
    AreNamed (a.add c).args ↔
      AreNamed a.args ∧ (p.letters ≠ [] ∨ p.IsBare) ∧ ∀ b ∈ p.last, B b := by
  have hname := h.name_ne
  rw [← h.args, ← h.bare, ← hname]
  unfold Aggregate.add
  split
  · rename_i he
    simp only [Call.isEmpty, Bool.and_eq_true, List.isEmpty_iff] at he
    simp [he.2, areNamed_nil]
  · rename_i he
    simp only [Call.isEmpty, Bool.and_eq_true, List.isEmpty_iff, String.isEmpty_iff] at he
    rw [areNamed_append, areNamed_cons, Call.toTerm, isNamed_call]
    have := areNamed_nil
    tauto

/-- What it takes for the call of a level to be named, with `ps` the parts to come. -/
def Gathers : Option Aggregate → List Part → Prop
  | none, ps => IsLettered ps
  | some a, ps => AreNamed a.args ∧ ∀ p ∈ ps, p.letters ≠ [] ∨ p.IsBare

/-- The invariant of `gather` is that the calls kept so far are named where their parts have
letters. -/
theorem isNamed_gather {body : Nat → List Char → Except Fault (List Term)} {ps : List Piece}
    (hbody : ∀ b, .group b ∈ ps → ∀ room args, body room b = .ok args →
      ∀ l, ReadOf B ⟨l, some b⟩ ⟨String.ofList l, args⟩) {room : Nat}
    {gathered : Option Aggregate} {p : Part} {current c : Call} (hp : ReadOf B p current)
    (h : gather body limit room gathered current ps = .ok c) :
    c.toTerm.IsNamed ↔
      Gathers gathered (partsFrom p ps) ∧ ∀ q ∈ partsFrom p ps, ∀ b ∈ q.last, B b := by
  induction ps generalizing room gathered p current c with
  | nil =>
      cases gathered with
      | none =>
          rw [gather, pure_eq, Except.ok.injEq] at h
          rw [← h, partsFrom, List.forall_mem_singleton, Call.toTerm, isNamed_call, hp.name_ne,
            hp.args, Gathers, IsLettered]
      | some a =>
          rw [gather, pure_eq, Except.ok.injEq] at h
          rw [← h, partsFrom, List.forall_mem_singleton, Gathers, List.forall_mem_singleton,
            and_assoc, ← hp.add a, Call.toTerm, isNamed_call]
          exact and_iff_right (Joiner.name_ne_empty _)
  | cons q ps ih =>
      have hps : ∀ b, .group b ∈ ps → ∀ room args, body room b = .ok args →
          ∀ l, ReadOf B ⟨l, some b⟩ ⟨String.ofList l, args⟩ := fun b hb =>
        hbody b (List.mem_cons_of_mem q hb)
      cases q with
      | char d =>
          rw [gather] at h
          exact ih hps (hp.push d) h
      | group b =>
          rw [gather] at h
          obtain ⟨args, hb, h⟩ := bind_eq_ok.1 h
          have hr := hbody b List.mem_cons_self room args hb p.letters
          exact ih hps (hp.name ▸ hr) h
      | unclosed s => simp [gather] at h
      | joiner j =>
          have hstart := hp.add (Aggregate.start j)
          rw [partsFrom, List.forall_mem_cons]
          cases gathered with
          | none =>
              rw [gather_first] at h
              simp only [ih hps readOf_empty h, Gathers]
              rw [hstart, isLettered_cons (partsFrom_ne_nil _ _)]
              simp only [Aggregate.start, areNamed_nil, true_and]
              tauto
          | some a =>
              simp only [Gathers, List.forall_mem_cons]
              by_cases hj : a.joiner = j
              · rw [gather_same hj] at h
                rw [ih hps readOf_empty h, Gathers, hp.add a]
                tauto
              · cases room with
                | zero => simp [gather_other_zero hj] at h
                | succ room =>
                    rw [gather_other hj, map_eq_ok] at h
                    obtain ⟨inner, hi, rfl⟩ := h
                    -- The rest of the level is gathered into an aggregate of its own.
                    rw [Call.toTerm, isNamed_call, areNamed_append, areNamed_cons,
                      ih hps readOf_empty hi, Gathers, hstart]
                    simp only [Aggregate.start, areNamed_nil, true_and]
                    have := a.joiner.name_ne_empty
                    tauto

theorem arguments_eq_nil_iff {leaf : String → Except Fault Value}
    {call : Nat → List Char → Except Fault Call} {room : Nat} {cs : List Chunk} {ts : List Term}
    (h : arguments leaf call limit room cs = .ok ts) : ts = [] ↔ cs = [] := by
  cases cs with
  | nil =>
      rw [arguments, pure_eq, Except.ok.injEq] at h
      simp [← h]
  | cons c cs =>
      rw [arguments] at h
      obtain ⟨t, -, h⟩ := bind_eq_ok.1 h
      obtain ⟨ts, -, h⟩ := bind_eq_ok.1 h
      rw [pure_eq, Except.ok.injEq] at h
      simp [← h]

theorem readOf_of_readBody {o : Options} {b : List Char} (he : ¬isBlank o.escape)
    (hb : Group.Ends o.escape .plain b) {fuel room : Nat} {args : List Term}
    (hcall : ∀ room s c, readCall tags o fuel room s = .ok c → (c.toTerm.IsNamed ↔ P s))
    (h : readBody tags o fuel room b = .ok args) (l : List Char) :
    ReadOf (InBody o P) ⟨l, some b⟩ ⟨String.ofList l, args⟩ := by
  obtain ⟨cs, hcs, hargs⟩ := bind_eq_ok.1 h
  have hcs := mapError_eq_ok.1 hcs
  constructor
  · rfl
  · rw [arguments_eq_nil_iff hargs]
    simp only [Part.IsBare, Option.mem_some_iff, forall_eq']
    rw [← Chunk.ofBody_eq_nil_iff he hb, hcs, Except.ok.injEq]
  · rw [areNamed_arguments hcall cs hargs]
    simp [InBody, hcs]

def IsLetteredThrough (o : Options) (s : List Char) : Prop :=
  ∀ u, Relation.ReflTransGen (Embeds o) s u → IsLettered (parts o.escape u)

theorem isLetteredThrough_iff {o : Options} {s : List Char} :
    IsLetteredThrough o s ↔ IsLettered (parts o.escape s) ∧
      ∀ p ∈ parts o.escape s, ∀ b ∈ p.last, InBody o (IsLetteredThrough o) b := by
  constructor
  · intro h
    refine ⟨h s .refl, fun p hp b hb cs hcs v hv hs u hu => h u (.head ?_ hu)⟩
    exact ⟨p, hp, b, hb, cs, hcs, v, hv, hs, rfl⟩
  · rintro ⟨h, hin⟩ u hu
    cases hu.cases_head with
    | inl hu => exact hu ▸ h
    | inr hu =>
        obtain ⟨_, ⟨p, hp, b, hb, cs, hcs, v, hv, hs, rfl⟩, hu⟩ := hu
        exact hin p hp b hb cs hcs v hv hs u hu

theorem isNamed_readCall {o : Options} (he : ¬isBlank o.escape) {fuel room : Nat} {s : List Char}
    {c : Call} (h : readCall tags o fuel room s = .ok c) :
    c.toTerm.IsNamed ↔ IsLetteredThrough o s := by
  induction fuel generalizing room s c with
  | zero => simp [readCall] at h
  | succ fuel ih =>
      rw [readCall_succ] at h
      rw [isLetteredThrough_iff]
      refine isNamed_gather (fun b hb room args hargs l => ?_) readOf_empty h
      obtain ⟨⟨y, hy⟩, hc⟩ := isBody_of_mem_ofText hb
      exact readOf_of_readBody he ⟨y, hy.scan hc []⟩ (fun _ _ _ => ih) hargs l

/-- All calls of a query are named where each text that counts in it, once its comparisons are
calls, has letters for them. -/
theorem names_of_parse {text : String} {t : Call} (h : parse text = .ok t) :
    ∃ expanded, Shorthand.expand text = .ok expanded ∧
      ((∀ n ∈ t.toTerm.names, n ≠ "") ↔
        ∀ u, Relation.ReflTransGen (Embeds .default) expanded.toList u →
          IsLettered (parts '\\' u)) := by
  rw [parse, read] at h
  split at h
  · simp at h
  · simp at h
  · obtain ⟨expanded, he, h⟩ := bind_eq_ok.1 h
    exact ⟨expanded, mapError_eq_ok.1 he, isNamed_readCall (o := .default) (by decide) h⟩

theorem names_of_parse_nested :
    parse "a(b())" = .ok ⟨"a", [.call "b" []]⟩ ∧
      ∀ u, Relation.ReflTransGen (Embeds .default) "a(b())".toList u →
        IsLettered (parts '\\' u) := by
  have h : parse "a(b())" = .ok ⟨"a", [.call "b" []]⟩ := by cbv
  have hx : Shorthand.expand "a(b())" = .ok "a(b())" := by cbv
  obtain ⟨expanded, he, hn⟩ := names_of_parse h
  obtain rfl := Except.ok.inj (hx.symm.trans he)
  exact ⟨h, hn.1 (by decide)⟩

theorem parse_group_nameless :
    parse "(a()|b())&c()" =
        .ok ⟨"and", [.call "" [.call "or" [.call "a" [], .call "b" []]], .call "c" []]⟩ ∧
      parse "()" = .ok ⟨"", []⟩ := by
  constructor
  · cbv
  · cbv

end Query

end ResourceQuery
