import Mathlib.Data.List.DropRight
import ResourceQuery.Proofs.ReadTerm

namespace ResourceQuery

open Outcome

inductive Layer
  | call
  | list
  deriving DecidableEq, Repr

namespace Layer

/-- A way down without the lists below its last call. -/
def toLastCall (p : List Layer) : List Layer := p.rdropWhile (· == list)

theorem toLastCall_cons (l : Layer) (p : List Layer) :
    toLastCall (l :: p) =
      if l = list ∧ toLastCall p = [] then [] else l :: toLastCall p := by
  simp only [toLastCall, List.rdropWhile, List.reverse_cons, List.dropWhile_append,
    List.reverse_eq_nil_iff, List.isEmpty_iff]
  by_cases h : p.reverse.dropWhile (· == list) = []
  · cases l <;> simp [h]
  · simp [h]

theorem length_le_add {p : List Layer} {n : Nat}
    (h : ∀ r, r <:+: p → (∀ l ∈ r, l = list) → r.length ≤ n) :
    p.length ≤ (toLastCall p).length + n := by
  have hlists : ∀ l ∈ p.rtakeWhile (· == list), l = list := fun l hl => by
    simpa using List.mem_rtakeWhile_imp hl
  have hn := h _ (List.rtakeWhile_suffix _ _).isInfix hlists
  have hlength := congrArg List.length
    (List.rdropWhile_append_rtakeWhile (p := (· == list)) (l := p))
  rw [List.length_append] at hlength
  rw [toLastCall]
  omega

end Layer

namespace Term

open Layer

mutual

/-- The ways from the root of a term down to its leaves, and to the calls and lists that have
nothing in them. -/
def paths : Term → List (List Layer)
  | call _ args => (pathsAll args).map (.call :: ·)
  | leaf _ => [[]]
  | list items => (pathsAll items).map (.list :: ·)

def pathsAll : List Term → List (List Layer)
  | [] => [[]]
  | [x] => paths x
  | x :: y :: xs => paths x ++ pathsAll (y :: xs)

end

variable {p r : List Layer} {n limit : Nat}

theorem mem_pathsAll {xs : List Term} :
    p ∈ pathsAll xs ↔ (xs = [] ∧ p = []) ∨ ∃ x ∈ xs, p ∈ x.paths := by
  induction xs with
  | nil => simp [pathsAll]
  | cons x xs ih =>
      cases xs with
      | nil => simp [pathsAll]
      | cons y xs =>
          rw [pathsAll, List.mem_append, ih]
          simp

theorem exists_of_cons_mem_paths {l : Layer} {x : Term} (h : l :: p ∈ x.paths) :
    (l = .call ∧ ∃ name args, x = call name args ∧ p ∈ pathsAll args) ∨
      (l = .list ∧ ∃ items, x = list items ∧ p ∈ pathsAll items) := by
  cases x with
  | call name args =>
      obtain ⟨q, hq, he⟩ := List.mem_map.1 (by rwa [paths] at h)
      obtain ⟨rfl, rfl⟩ := List.cons.inj he
      exact .inl ⟨rfl, name, args, rfl, hq⟩
  | leaf v => simp [paths] at h
  | list items =>
      obtain ⟨q, hq, he⟩ := List.mem_map.1 (by rwa [paths] at h)
      obtain ⟨rfl, rfl⟩ := List.cons.inj he
      exact .inr ⟨rfl, items, rfl, hq⟩

theorem cons_mem_paths {name : String} {args : List Term} (h : p ∈ pathsAll args) :
    .call :: p ∈ (call name args).paths := by
  rw [paths]
  exact List.mem_map_of_mem h

theorem cons_mem_paths_of_mem {name : String} {args : List Term} {x : Term} (hx : x ∈ args)
    (hp : p ∈ x.paths) : .call :: p ∈ (call name args).paths :=
  cons_mem_paths (mem_pathsAll.2 (.inr ⟨x, hx, hp⟩))

theorem length_le_listDepth {x : Term} (hp : p ∈ x.paths) (hr : r <+: p)
    (h : ∀ l ∈ r, l = .list) : r.length ≤ x.listDepth := by
  induction p generalizing x r with
  | nil => simp [List.prefix_nil.1 hr]
  | cons l q ih =>
      rcases List.prefix_cons_iff.1 hr with rfl | ⟨r, rfl, hr'⟩
      · exact Nat.zero_le _
      · obtain ⟨hl, h⟩ := List.forall_mem_cons.1 h
        rcases exists_of_cons_mem_paths hp with ⟨rfl, -⟩ | ⟨-, items, rfl, hq⟩
        · cases hl
        · refine Nat.succ_le_succ ?_
          rcases mem_pathsAll.1 hq with ⟨-, rfl⟩ | ⟨x, hx, hq⟩
          · simp [List.prefix_nil.1 hr']
          · exact Nat.le_trans (ih hq hr' h) (listDepthAll_le_iff.1 (Nat.le_refl _) x hx)

/-- No way down passes more lists in a row than there may be around one another. -/
theorem length_le_of_listsWithin {x : Term} (hl : x.ListsWithin limit) (hd : x.listDepth ≤ limit)
    (hp : p ∈ x.paths) (hr : r <:+: p) (h : ∀ l ∈ r, l = .list) : r.length ≤ limit := by
  induction p generalizing x with
  | nil => simp [List.infix_nil.1 hr]
  | cons l q ih =>
      rcases List.infix_cons_iff.1 hr with hr | hr
      · exact Nat.le_trans (length_le_listDepth hp hr h) hd
      · have hbelow {xs : List Term} (hl : AllListsWithin limit xs) (hd : listDepthAll xs ≤ limit)
            (hq : q ∈ pathsAll xs) : r.length ≤ limit := by
          rcases mem_pathsAll.1 hq with ⟨-, rfl⟩ | ⟨x, hx, hq⟩
          · simp [List.infix_nil.1 hr]
          · exact ih (allListsWithin_iff.1 hl x hx) (listDepthAll_le_iff.1 hd x hx) hq hr
        rcases exists_of_cons_mem_paths hp with ⟨-, name, args, rfl, hq⟩ | ⟨-, items, rfl, hq⟩
        · exact hbelow hl.2 hl.1 hq
        · exact hbelow hl (Nat.le_of_succ_le hd) hq

/-- No call of a term is more than `n` calls and lists down, itself included. -/
def CallsWithin (n : Nat) (x : Term) : Prop := ∀ p ∈ x.paths, (toLastCall p).length ≤ n

theorem CallsWithin.mono {n' : Nat} {x : Term} (h : x.CallsWithin n) (hn : n ≤ n') :
    x.CallsWithin n' := fun p hp => Nat.le_trans (h p hp) hn

theorem callsWithin_leaf (n : Nat) (v : Value) : (leaf v).CallsWithin n := by
  intro p hp
  rw [paths, List.mem_singleton] at hp
  rw [hp]
  exact Nat.zero_le n

theorem callsWithin_call {name : String} {args : List Term} (h : ∀ x ∈ args, x.CallsWithin n) :
    (call name args).CallsWithin (n + 1) := by
  intro p hp
  rw [paths] at hp
  obtain ⟨q, hq, rfl⟩ := List.mem_map.1 hp
  rw [toLastCall_cons, if_neg (by simp), List.length_cons]
  rcases mem_pathsAll.1 hq with ⟨-, rfl⟩ | ⟨x, hx, hq⟩
  · exact Nat.le_add_left 1 n
  · exact Nat.succ_le_succ (h x hx q hq)

theorem callsWithin_list {items : List Term} (h : ∀ x ∈ items, x.CallsWithin (n - 1)) :
    (list items).CallsWithin n := by
  intro p hp
  rw [paths] at hp
  obtain ⟨q, hq, rfl⟩ := List.mem_map.1 hp
  rw [toLastCall_cons]
  split
  · exact Nat.zero_le n
  · rename_i hne
    have hpos : 0 < (toLastCall q).length :=
      List.length_pos_iff.2 fun hnil => hne ⟨rfl, hnil⟩
    rcases mem_pathsAll.1 hq with ⟨-, rfl⟩ | ⟨x, hx, hq⟩
    · exact absurd hpos (Nat.lt_irrefl 0)
    · have := h x hx q hq
      rw [List.length_cons]
      omega

end Term

theorem Aggregate.callsWithin_add {a : Aggregate} {c : Call} {m n : Nat} (hn : m < n)
    (ha : ∀ x ∈ a.args, x.CallsWithin n) (hc : ∀ x ∈ c.args, x.CallsWithin m) :
    ∀ x ∈ (a.add c).args, x.CallsWithin n := by
  unfold add
  split
  · exact ha
  · intro x hx
    rcases List.mem_append.1 hx with hx | hx
    · exact ha x hx
    · rw [List.mem_singleton.1 hx]
      exact (Term.callsWithin_call hc).mono hn

namespace Query

open Term

variable {tags : TagTable} {limit : Nat}

mutual

/-- A call among arguments takes two levels, and below it the joiners of each take one more. -/
theorem callsWithin_argument {leaf : String → Except Fault Value}
    {call : Nat → List Char → Except Fault Call}
    (hcall : ∀ room s c, call room s = .ok c → c.toTerm.CallsWithin (room + room / 2 + 2))
    {room : Nat} (c : Chunk) {x : Term} (h : argument leaf call limit room c = .ok x) :
    x.CallsWithin (room + room / 2 - 1) := by
  match c with
  | .list items =>
      rw [argument] at h
      obtain ⟨xs, hx, h⟩ := bind_eq_ok.1 h
      obtain rfl := Except.ok.inj h
      exact callsWithin_list fun x hm =>
        (callsWithin_arguments hcall items hx x hm).mono (by omega)
  | .text s =>
      by_cases hs : startsCall s.toList
      · by_cases hr : room < 2
        · simp [argument_tooDeep hs hr] at h
        · obtain ⟨room, rfl⟩ : ∃ r, room = r + 2 := ⟨room - 2, by omega⟩
          rw [argument_call hs] at h
          obtain ⟨c, hread, rfl⟩ := map_eq_ok.1 h
          exact (hcall room s.toList c hread).mono (by omega)
      · rw [argument_leaf (Bool.eq_false_iff.2 hs)] at h
        obtain ⟨v, -, rfl⟩ := map_eq_ok.1 h
        exact callsWithin_leaf _ v

theorem callsWithin_arguments {leaf : String → Except Fault Value}
    {call : Nat → List Char → Except Fault Call}
    (hcall : ∀ room s c, call room s = .ok c → c.toTerm.CallsWithin (room + room / 2 + 2))
    {room : Nat} (cs : List Chunk) {xs : List Term}
    (h : arguments leaf call limit room cs = .ok xs) :
    ∀ x ∈ xs, x.CallsWithin (room + room / 2 - 1) := by
  match cs with
  | [] =>
      obtain rfl := Except.ok.inj h
      simp
  | c :: cs =>
      rw [arguments] at h
      obtain ⟨x, hx, h⟩ := bind_eq_ok.1 h
      obtain ⟨xs, hxs, h⟩ := bind_eq_ok.1 h
      obtain rfl := Except.ok.inj h
      exact List.forall_mem_cons.2
        ⟨callsWithin_argument hcall c hx, callsWithin_arguments hcall cs hxs⟩

end

/-- Where the joiner changes, the rest of the level goes one call further down than what has been
gathered, and only one level is taken for that. -/
theorem callsWithin_gather {body : Nat → List Char → Except Fault (List Term)}
    (hbody : ∀ room b xs, body room b = .ok xs → ∀ x ∈ xs, x.CallsWithin (room + room / 2 - 1))
    {room n : Nat} (hn : room + room / 2 + 1 ≤ n) {gathered : Option Aggregate} {current c : Call}
    {ps : List Piece} (hg : ∀ a ∈ gathered, ∀ x ∈ a.args, x.CallsWithin n)
    (hc : ∀ x ∈ current.args, x.CallsWithin (room + room / 2 - 1))
    (h : gather body limit room gathered current ps = .ok c) : c.toTerm.CallsWithin (n + 1) := by
  induction ps generalizing room n gathered current c with
  | nil =>
      cases gathered with
      | none =>
          obtain rfl := Except.ok.inj h
          exact (callsWithin_call hc).mono (by omega)
      | some a =>
          obtain rfl := Except.ok.inj h
          exact callsWithin_call (a.callsWithin_add (by omega) (hg a rfl) hc)
  | cons p ps ih =>
      cases p with
      | char d =>
          rw [gather] at h
          refine ih hn hg ?_ h
          exact hc
      | group b =>
          rw [gather] at h
          obtain ⟨args, hb, h⟩ := bind_eq_ok.1 h
          exact ih hn hg (hbody room b args hb) h
      | unclosed s => simp [gather] at h
      | joiner j =>
          have hstart {n : Nat} (hn : room + room / 2 - 1 < n) :
              ∀ x ∈ ((Aggregate.start j).add current).args, x.CallsWithin n :=
            (Aggregate.start j).callsWithin_add hn (by simp [Aggregate.start]) hc
          cases gathered with
          | none =>
              rw [gather_first] at h
              exact ih hn (by simpa using hstart (by omega)) (by simp [Call.empty]) h
          | some a =>
              have ha := hg a rfl
              by_cases hne : a.joiner = j
              · rw [gather_same hne] at h
                exact ih hn (by simpa using a.callsWithin_add (by omega) ha hc) (by simp [Call.empty]) h
              · cases room with
                | zero => simp [gather_other_zero hne] at h
                | succ room =>
                    rw [gather_other hne] at h
                    obtain ⟨inner, hi, rfl⟩ := map_eq_ok.1 h
                    -- What has been read so far was read with one level more.
                    have hinner := ih (n := room + 1 + (room + 1) / 2) (by omega)
                      (by simpa using hstart (by omega)) (by simp [Call.empty]) hi
                    refine callsWithin_call fun x hx => ?_
                    rcases List.mem_append.1 hx with hx | hx
                    · exact ha x hx
                    · rw [List.mem_singleton.1 hx]
                      exact hinner.mono (by omega)

theorem callsWithin_readCall {o : Options} {fuel room : Nat} {s : List Char} {c : Call}
    (h : readCall tags o fuel room s = .ok c) : c.toTerm.CallsWithin (room + room / 2 + 2) := by
  induction fuel generalizing room s c with
  | zero => simp [readCall] at h
  | succ fuel ih =>
      rw [readCall_succ] at h
      refine callsWithin_gather (fun room b xs hb => ?_) (Nat.le_refl _) (by simp)
        (by simp [Call.empty]) h
      obtain ⟨chunks, -, hx⟩ := bind_eq_ok.1 hb
      exact callsWithin_arguments (fun _ _ _ hc => ih hc) chunks hx

theorem callsWithin_read {o : Options} {text : String} {c : Call} (h : read tags o text = .ok c) :
    c.toTerm.CallsWithin (o.maxDepth + o.maxDepth / 2 + 2) := by
  unfold read at h
  split at h
  · simp at h
  · simp at h
  · obtain ⟨expanded, -, h⟩ := bind_eq_ok.1 h
    exact callsWithin_readCall h

end Query

end ResourceQuery
