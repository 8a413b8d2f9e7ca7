import Mathlib
import ResourceQuery.Proofs.Paths
import ResourceQuery.Proofs.Rereading

namespace ResourceQuery

open Outcome

namespace Query

open Text

/-- Lists around one another. -/
def lists : Nat → List Char
  | 0 => []
  | n + 1 => '(' :: lists n ++ [')']

/-- Two joined calls, the second of them around a text. -/
def joinedAround (inner : List Char) : List Char :=
  ['a', '(', ')', '&', 'b'] ++ ('(' :: inner ++ [')'])

/-- A query with all the calls around one another that there is room for, and a text within them.
A joiner at the end takes the call before it one further down. -/
def deepest (inner : List Char) : Nat → List Char
  | 0 => joinedAround inner
  | 1 => joinedAround inner ++ ['|']
  | room + 2 => joinedAround (deepest inner room) ++ ['|']

variable {tags : TagTable} {limit fuel room n : Nat} {x : List Char}

theorem balanced_lists (n : Nat) : Group.Balanced '\\' (lists n) := by
  induction n with
  | zero => exact Group.balanced_nil
  | succ n ih => exact ih.group (by decide) (by decide)

theorem splitFrom_nil : Chunk.splitFrom '\\' limit room .plain [] [] = .ok [] := by
  rw [Chunk.splitFrom]
  rfl

theorem exists_splitFrom_lists (limit n : Nat) :
    ∃ cs, (∀ room, n ≤ room →
        Chunk.splitFrom '\\' limit room .plain [] (lists n) = .ok cs) ∧
      ∃ xs, (∀ leaf call room, arguments leaf call limit room cs = .ok xs) ∧
        List.replicate n Layer.list ∈ Term.pathsAll xs := by
  induction n with
  | zero =>
      refine ⟨[], fun room _ => splitFrom_nil, [], fun _ _ _ => arguments_nil, ?_⟩
      rw [Term.pathsAll]
      exact List.mem_singleton_self []
  | succ n ih =>
      obtain ⟨cs, hcs, xs, hxs, hp⟩ := ih
      refine ⟨[.list cs], fun room hr => ?_, [.list xs], fun leaf call room => ?_, ?_⟩
      · obtain ⟨room, rfl⟩ : ∃ r, room = r + 1 := ⟨room - 1, by omega⟩
        have h := @Chunk.splitFrom_list '\\' limit room [] _ _ (balanced_lists n).passes
          (by decide) (by decide)
        rw [lists, h, hcs room (by omega), ok_bind, Chunk.skipSeparator, List.dropWhile_nil]
        simp only [splitFrom_nil, ok_bind, pure_eq]
      · rw [arguments_singleton, argument, hxs]
        rfl
      · rw [Term.pathsAll, Term.paths]
        exact List.mem_map_of_mem hp

theorem exists_readBody_lists (tags : TagTable) (h : n ≤ limit) :
    ∃ xs, (∀ fuel room, readBody tags ⟨'\\', limit⟩ fuel room (lists n) = .ok xs) ∧
      List.replicate n Layer.list ∈ Term.pathsAll xs := by
  obtain ⟨cs, hcs, xs, hxs, hp⟩ := exists_splitFrom_lists limit n
  refine ⟨xs, fun fuel room => ?_, hp⟩
  exact (readBody_of_ofBody (hcs limit h) tags fuel room).trans (hxs _ _ room)

theorem balanced_joinedAround (hx : Group.Balanced '\\' x) :
    Group.Balanced '\\' (joinedAround x) := by
  have ha : Group.Balanced '\\' ['a'] := Group.balanced_of_plain (by decide)
  have hb : Group.Balanced '\\' ['&', 'b'] := Group.balanced_of_plain (by decide)
  have hnil : Group.Balanced '\\' ('(' :: [] ++ [')']) :=
    Group.balanced_nil.group (by decide) (by decide)
  exact ((ha.append hnil).append hb).append (hx.group (by decide) (by decide))

theorem ofText_joinedAround (hx : Group.Balanced '\\' x) (s : List Char) :
    Piece.ofText '\\' (joinedAround x ++ s) =
      [.char 'a', .group [], .joiner .and, .char 'b', .group x] ++ Piece.ofText '\\' s := by
  have hnil := @Piece.ofText_group '\\' ('&' :: 'b' :: ('(' :: x ++ ')' :: s)) [] []
    Group.passes_nil (by decide)
  have hgroup := @Piece.ofText_group '\\' s x x hx.passes (by decide)
  have hs : joinedAround x ++ s =
      'a' :: ('(' :: [] ++ ')' :: ('&' :: 'b' :: ('(' :: x ++ ')' :: s))) := by
    simp [joinedAround]
  rw [hs, Piece.ofText_char (by decide), hnil, Piece.ofText_joiner (j := .and) (by decide),
    Piece.ofText_char (by decide), hgroup]
  rfl

theorem readBody_nil : readBody tags ⟨'\\', limit⟩ fuel room [] = .ok [] :=
  (readBody_of_ofBody splitFrom_nil tags fuel room).trans arguments_nil

theorem readCall_joinedAround {xs : List Term} (hx : Group.Balanced '\\' x)
    (hr : readBody tags ⟨'\\', limit⟩ fuel room x = .ok xs) (s : List Char) :
    readCall tags ⟨'\\', limit⟩ (fuel + 1) room (joinedAround x ++ s) =
      gather (readBody tags ⟨'\\', limit⟩ fuel) limit room (some ⟨.and, [.call "a" []]⟩)
        ⟨"b", xs⟩ (Piece.ofText '\\' s) := by
  rw [readCall_succ, ofText_joinedAround hx]
  simp only [List.cons_append, List.nil_append]
  rw [gather, gather, readBody_nil, ok_bind, gather_first, gather, gather, hr, ok_bind]
  rfl

theorem readCall_joinedAround_nil {xs : List Term} (hx : Group.Balanced '\\' x)
    (hr : readBody tags ⟨'\\', limit⟩ fuel room x = .ok xs) :
    readCall tags ⟨'\\', limit⟩ (fuel + 1) room (joinedAround x) =
      .ok ⟨"and", [.call "a" [], .call "b" xs]⟩ := by
  have h := readCall_joinedAround hx hr []
  rw [List.append_nil, Piece.ofText, gather] at h
  exact h

theorem readCall_joinedAround_joiner {xs : List Term} (hx : Group.Balanced '\\' x)
    (hr : readBody tags ⟨'\\', limit⟩ fuel (room + 1) x = .ok xs) :
    readCall tags ⟨'\\', limit⟩ (fuel + 1) (room + 1) (joinedAround x ++ ['|']) =
      .ok ⟨"and", [.call "a" [], .call "or" [.call "b" xs]]⟩ := by
  rw [readCall_joinedAround hx hr, Piece.ofText_joiner (j := .or) (by decide), Piece.ofText,
    gather_other (by decide), gather]
  rfl

/-- Two joined calls and at most a joiner after them, which is one chunk. -/
def IsPair (t : List Char) : Prop :=
  ∃ y s, Group.Balanced '\\' y ∧ (s = [] ∨ s = ['|']) ∧ t = joinedAround y ++ s

theorem IsPair.balanced {t : List Char} (h : IsPair t) : Group.Balanced '\\' t := by
  obtain ⟨y, s, hy, hs, rfl⟩ := h
  refine (balanced_joinedAround hy).append ?_
  rcases hs with rfl | rfl
  · exact Group.balanced_nil
  · exact Group.balanced_of_plain (by decide)

theorem IsPair.startsCall {t : List Char} (h : IsPair t) : startsCall t := by
  obtain ⟨y, s, -, -, rfl⟩ := h
  exact @startsCall_of_isWord ['a'] _ (by simp) (by decide)

theorem IsPair.splitFrom {t : List Char} (h : IsPair t) :
    Chunk.splitFrom '\\' limit room .plain [] t = .ok [.text (String.ofList t)] := by
  obtain ⟨y, s, hy, hs, rfl⟩ := h
  have hk : Chunk.Kept '\\' ('(' :: [] ++ [')'] ++ ['&', 'b'] ++ ('(' :: y ++ [')']) ++ s) := by
    refine (((Chunk.kept_group Group.passes_nil (by decide) (by decide)).append
      (Chunk.kept_of_plain (by decide))).append
        (Chunk.kept_group hy.passes (by decide) (by decide))).append ?_
    rcases hs with rfl | rfl
    · exact Chunk.kept_nil
    · exact Chunk.kept_of_plain (by decide)
  have hb : bare (joinedAround y ++ s) = joinedAround y ++ s := by
    rcases hs with rfl | rfl
    · exact bare_eq_self (d := ')') (by decide) (by decide) (by decide)
        (List.getLast?_eq_some_iff.2 ⟨['a', '(', ')', '&', 'b', '('] ++ y, by simp⟩)
    · exact bare_eq_self (d := '|') (by decide) (by decide) (by decide)
        (List.getLast?_eq_some_iff.2 ⟨joinedAround y, rfl⟩)
  have hcons : joinedAround y ++ s =
      'a' :: ('(' :: [] ++ [')'] ++ ['&', 'b'] ++ ('(' :: y ++ [')']) ++ s) := by
    simp [joinedAround]
  rw [hcons] at hb ⊢
  have h := @Chunk.splitFrom_texted limit room _ _ (isInert_of_isLeafChar (c := 'a') (by decide))
    hk hb none
  rwa [Chunk.followed, List.append_nil] at h

theorem isPair_deepest (hx : Group.Balanced '\\' x) (room : Nat) : IsPair (deepest x room) := by
  induction room using deepest.induct with
  | case1 => exact ⟨x, [], hx, .inl rfl, by rw [deepest, List.append_nil]⟩
  | case2 => exact ⟨x, ['|'], hx, .inr rfl, by rw [deepest]⟩
  | case3 room ih => exact ⟨deepest x room, ['|'], ih.balanced, .inr rfl, by rw [deepest]⟩

theorem IsPair.readBody {t : List Char} {c : Call} (h : IsPair t)
    (hc : readCall tags ⟨'\\', limit⟩ fuel room t = .ok c) :
    readBody tags ⟨'\\', limit⟩ fuel (room + 2) t = .ok [c.toTerm] := by
  have ht := h.startsCall
  refine (readBody_of_ofBody h.splitFrom tags fuel (room + 2)).trans ?_
  rw [arguments_singleton, argument_call (by rwa [String.toList_ofList]), String.toList_ofList, hc]
  rfl

theorem exists_readCall_deepest {xs : List Term} (hx : Group.Balanced '\\' x)
    (hr : ∀ fuel room, Query.readBody tags ⟨'\\', limit⟩ fuel room x = .ok xs)
    {p : List Layer} (hp : p ∈ Term.pathsAll xs) (hf : room < 2 * fuel) :
    ∃ c, readCall tags ⟨'\\', limit⟩ fuel room (deepest x room) = .ok c ∧
      List.replicate (room + room / 2 + 2) Layer.call ++ p ∈ c.toTerm.paths := by
  obtain ⟨fuel, rfl⟩ : ∃ k, fuel = k + 1 := ⟨fuel - 1, by omega⟩
  induction room using deepest.induct generalizing fuel with
  | case1 =>
      refine ⟨_, readCall_joinedAround_nil hx (hr fuel 0), ?_⟩
      exact Term.cons_mem_paths_of_mem (List.mem_cons_of_mem _ List.mem_cons_self)
        (Term.cons_mem_paths hp)
  | case2 =>
      refine ⟨_, readCall_joinedAround_joiner hx (hr fuel 1), ?_⟩
      exact Term.cons_mem_paths_of_mem (List.mem_cons_of_mem _ List.mem_cons_self)
        (Term.cons_mem_paths_of_mem List.mem_cons_self (Term.cons_mem_paths hp))
  | case3 room ih =>
      obtain ⟨fuel, rfl⟩ : ∃ k, fuel = k + 1 := ⟨fuel - 1, by omega⟩
      obtain ⟨c, hc, hq⟩ := ih fuel (by omega)
      have ht := isPair_deepest hx room
      refine ⟨_, readCall_joinedAround_joiner ht.balanced (ht.readBody hc), ?_⟩
      have hn : room + 2 + (room + 2) / 2 + 2 = room + room / 2 + 2 + 1 + 1 + 1 := by omega
      rw [hn, List.replicate_succ, List.replicate_succ, List.replicate_succ]
      exact Term.cons_mem_paths_of_mem (List.mem_cons_of_mem _ List.mem_cons_self)
        (Term.cons_mem_paths_of_mem List.mem_cons_self
          (Term.cons_mem_paths_of_mem List.mem_cons_self hq))

theorem mem_joinedAround {c : Char} (h : c ∈ joinedAround x) :
    c ∈ x ∨ c ∈ ['a', '(', ')', '&', 'b', '|'] := by
  simp only [joinedAround, List.mem_append, List.mem_cons, List.not_mem_nil, or_false] at h ⊢
  tauto

theorem mem_lists {c : Char} (h : c ∈ lists n) : c ∈ ['a', '(', ')', '&', 'b', '|'] := by
  induction n with
  | zero => simp [lists] at h
  | succ n ih =>
      rw [lists, List.cons_append, List.mem_cons, List.mem_append, List.mem_singleton] at h
      rcases h with rfl | h | rfl
      · simp
      · exact ih h
      · simp

theorem mem_deepest {c : Char} (h : c ∈ deepest (lists n) room) :
    c ∈ ['a', '(', ')', '&', 'b', '|'] := by
  induction room using deepest.induct with
  | case1 => exact (mem_joinedAround h).elim mem_lists id
  | case2 =>
      rw [deepest, List.mem_append, List.mem_singleton] at h
      rcases h with h | rfl
      · exact (mem_joinedAround h).elim mem_lists id
      · simp
  | case3 room ih =>
      rw [deepest, List.mem_append, List.mem_singleton] at h
      rcases h with h | rfl
      · exact (mem_joinedAround h).elim ih id
      · simp

theorem isStill_deepest (n room : Nat) : Shorthand.IsStill (deepest (lists n) room) where
  sign c hc := by
    have h : ∀ c ∈ ['a', '(', ')', '&', 'b', '|'], ¬Shorthand.isSign c := by decide
    exact h c (mem_deepest hc)
  bracket := Shorthand.noBracket_of_notMem fun h => absurd (mem_deepest h) (by decide)

/-- The limit bounds a query by its ways down. Down to its last call a way has at most half as many
calls and lists again as the limit, and two more. No more lists than the limit follow one another,
below the last call or above it. For every limit there is a query with as many of both. -/
theorem paths_of_read (tags : TagTable) :
    (∀ o text c, read tags o text = .ok c → ∀ p ∈ c.toTerm.paths,
      (p.rdropWhile (· == .list)).length ≤ o.maxDepth + o.maxDepth / 2 + 2 ∧
        (∀ r, r <:+: p → (∀ l ∈ r, l = .list) → r.length ≤ o.maxDepth) ∧
        p.length ≤ 2 * o.maxDepth + o.maxDepth / 2 + 2) ∧
      ∀ m, ∃ text c, read tags ⟨'\\', m⟩ text = .ok c ∧
        List.replicate (m + m / 2 + 2) Layer.call ++ List.replicate m Layer.list ∈
          c.toTerm.paths := by
  constructor
  · intro o text c h p hp
    have hcalls := callsWithin_read h p hp
    have hlists (r) (hr : r <:+: p) (hl : ∀ l ∈ r, l = .list) : r.length ≤ o.maxDepth :=
      Term.length_le_of_listsWithin (isReadFrom_read h).toTerm.lists (Nat.zero_le _) hp hr hl
    have hlength := Layer.length_le_add hlists
    exact ⟨hcalls, hlists, by omega⟩
  · intro m
    obtain ⟨xs, hxs, hp⟩ := exists_readBody_lists tags (Nat.le_refl m)
    obtain ⟨c, hc, hmem⟩ := exists_readCall_deepest (balanced_lists m) hxs hp
      (show m < 2 * (m + 1) by omega)
    refine ⟨String.ofList (deepest (lists m) m), c, ?_, hmem⟩
    obtain ⟨y, s, -, -, he⟩ := isPair_deepest (balanced_lists m) m
    rw [read_eq_readExpanded (c := 'a') (String.toList_ofList.trans he) (by decide)
      (by rw [String.toList_ofList]; exact isStill_deepest m m), readExpanded, String.toList_ofList]
    exact hc

theorem paths_of_read_joined :
    ∃ c, read .standard ⟨'\\', 2⟩ "a()&b(x()&y((())))|c()" = .ok c ∧
      [.call, .call, .call, .call, .call, .list, .list] ∈ c.toTerm.paths ∧
      ∀ p ∈ c.toTerm.paths, (p.rdropWhile (· == .list)).length ≤ 5 ∧
        (∀ r, r <:+: p → (∀ l ∈ r, l = Layer.list) → r.length ≤ 2) ∧ p.length ≤ 7 := by
  have h : read .standard ⟨'\\', 2⟩ "a()&b(x()&y((())))|c()" =
      .ok ⟨"and", [.call "a" [], .call "or" [.call "b" [.call "and" [.call "x" [],
        .call "y" [.list [.list []]]]], .call "c" []]]⟩ := by cbv
  exact ⟨_, h, by decide, (paths_of_read .standard).1 _ _ _ h⟩

/-- Two levels more than the limit are not enough for all calls: where the joiner changes, the
calls before it are read on the level above. -/
theorem paths_of_read_exceeding :
    ∃ c, read .standard ⟨'\\', 2⟩ "a()&b(x()&y())|c()" = .ok c ∧
      ∃ p ∈ c.toTerm.paths, 2 + 2 < (p.rdropWhile (· == .list)).length := by
  have h : read .standard ⟨'\\', 2⟩ "a()&b(x()&y())|c()" =
      .ok ⟨"and", [.call "a" [], .call "or" [.call "b" [.call "and" [.call "x" [],
        .call "y" []]], .call "c" []]]⟩ := by cbv
  exact ⟨_, h, [.call, .call, .call, .call, .call], by decide, by decide⟩

end Query

end ResourceQuery
