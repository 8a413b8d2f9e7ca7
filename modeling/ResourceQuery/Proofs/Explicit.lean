import Mathlib
import ResourceQuery.Proofs.Joining
import ResourceQuery.Proofs.Rereading

namespace ResourceQuery

open Outcome Text

/-- A text that shows to be that of one call: a word and a group that ends where the text does. -/
def IsCallText (t : List Char) : Prop :=
  ∃ name x y, name ≠ [] ∧ (∀ c ∈ name, isWord c) ∧ Group.Passes '\\' x y ∧
    t = name ++ ('(' :: x ++ [')'])

def callText (name : List Char) (args : List (List Char)) : List Char :=
  name ++ ('(' :: [','].intercalate args ++ [')'])

namespace Joiner

theorem name_ne (j : Joiner) : j.name.toList ≠ [] := by
  cases j <;> decide

theorem isWord_name (j : Joiner) : ∀ c ∈ j.name.toList, isWord c := by
  cases j <;> decide

end Joiner

namespace IsCallText

variable {t : List Char}

theorem passes (h : IsCallText t) : ∃ y, Group.Passes '\\' t y := by
  obtain ⟨name, x, y, -, hw, hx, rfl⟩ := h
  have hn := balanced_of_leafChars fun c hc => isLeafChar_of_isWord (hw c hc)
  exact ⟨_, hn.passes.append (hx.group (by decide) (by decide))⟩

theorem startsCall (h : IsCallText t) : Query.startsCall t := by
  obtain ⟨name, x, y, hne, hw, -, rfl⟩ := h
  exact Query.startsCall_of_isWord hne hw

theorem splitFrom (h : IsCallText t) (limit room : Nat) (o : Option (List Char)) :
    Chunk.splitFrom '\\' limit room .plain [] (t ++ Chunk.followed o) =
      (Chunk.splitRest limit room o).map (.text (String.ofList t) :: ·) := by
  obtain ⟨name, x, y, hne, hw, hx, rfl⟩ := h
  obtain ⟨c, name, rfl⟩ := List.exists_cons_of_ne_nil hne
  simp only [List.mem_cons, forall_eq_or_imp] at hw
  have hc := isInert_of_isLeafChar (isLeafChar_of_isWord hw.1)
  have hk : Chunk.Kept '\\' (name ++ ('(' :: x ++ [')'])) :=
    (kept_of_leafChars fun c hc => isLeafChar_of_isWord (hw.2 c hc)).append
      (Chunk.kept_group hx (by decide) (by decide))
  have hb : bare (c :: (name ++ ('(' :: x ++ [')']))) = c :: (name ++ ('(' :: x ++ [')'])) :=
    bare_eq_self (d := ')') hc.blank hc.quote (by decide)
      (List.getLast?_eq_some_iff.2 ⟨c :: (name ++ '(' :: x), by simp⟩)
  exact Chunk.splitFrom_texted hc hk hb o

end IsCallText

theorem passes_intercalate {ts : List (List Char)} (h : ∀ t ∈ ts, IsCallText t) :
    ∃ y, Group.Passes '\\' ([','].intercalate ts) y := by
  induction ts with
  | nil => exact ⟨[], Group.passes_nil⟩
  | cons t ts ih =>
      simp only [List.mem_cons, forall_eq_or_imp] at h
      obtain ⟨y, hy⟩ := h.1.passes
      cases ts with
      | nil =>
          rw [List.intercalate_singleton]
          exact ⟨y, hy⟩
      | cons u ts =>
          obtain ⟨z, hz⟩ := ih h.2
          have hc : Group.Balanced '\\' [','] := Group.balanced_of_plain (by decide)
          rw [List.intercalate_cons_cons, List.append_assoc]
          exact ⟨_, hy.append (hc.passes.append hz)⟩

theorem isCallText_callText {name : List Char} {args : List (List Char)} (hne : name ≠ [])
    (hw : ∀ c ∈ name, isWord c) (h : ∀ t ∈ args, IsCallText t) :
    IsCallText (callText name args) := by
  obtain ⟨y, hy⟩ := passes_intercalate h
  exact ⟨name, _, y, hne, hw, hy, rfl⟩

namespace Chunk

/-- The chunk that the text of a call is. -/
def ofText (t : List Char) : Chunk := .text (String.ofList t)

theorem splitFrom_intercalate {ts : List (List Char)} (h : ∀ t ∈ ts, IsCallText t)
    (limit room : Nat) :
    splitFrom '\\' limit room .plain [] ([','].intercalate ts) = .ok (ts.map ofText) := by
  induction ts with
  | nil =>
      rw [List.intercalate, List.intersperse, List.flatten_nil, splitFrom]
      rfl
  | cons t ts ih =>
      simp only [List.mem_cons, forall_eq_or_imp] at h
      cases ts with
      | nil =>
          have ht := h.1.splitFrom limit room none
          rw [followed, List.append_nil] at ht
          rw [List.intercalate_singleton, ht]
          rfl
      | cons u ts =>
          have ht := h.1.splitFrom limit room (some ([','].intercalate (u :: ts)))
          rw [followed, splitRest, ih h.2] at ht
          rw [List.intercalate_cons_cons, List.append_assoc, List.singleton_append, ht]
          rfl

end Chunk

namespace Segment

variable {e : Char}

theorem upTo_node {ε : Fault} {body body' : Nat → List Char → Except Fault (List Term)}
    {room room' : Nat} (hb : ∀ b, UpTo ε (body room b) (body' room' b)) (s : Segment e) :
    UpTo ε (s.node body room) (s.node body' room') := by
  unfold node
  cases s.group with
  | none => exact .refl _ _
  | some t => exact (hb _).map _

structure IsCall (s : Segment e) : Prop where
  word : ∀ c ∈ s.name, isWord c
  group : s.group ≠ none

theorem isCallText {s : Segment '\\'} (h : s.IsCall) : IsCallText s.text := by
  obtain ⟨t, ht⟩ := Option.ne_none_iff_exists'.1 h.group
  obtain ⟨g, hs, htext, -⟩ := scan_of_group ht
  exact ⟨s.name, g.raw, g.content, s.name_ne, h.word, Group.passes_of_scan hs, by
    rw [text, ht, htext]; rfl⟩

/-- The arguments of the call that stands for a level, from `first` on: one for each segment that
`j` joins, and where the joiner changes, one for the last of these and all that follows. -/
def levelTexts (j : Joiner) (first : Segment e) : List (Joint × Segment e) → List (List Char)
  | [] => [first.text]
  | (k, s) :: rest =>
      if k.joiner = j then first.text :: levelTexts j s rest
      else [callText k.joiner.name.toList (first.text :: levelTexts k.joiner s rest)]

/-- Joined segments with calls in the place of joiners. The joiner that comes first makes up the
outermost call. -/
def explicitText (first : Segment e) : List (Joint × Segment e) → List Char
  | [] => first.text
  | (j, s) :: rest => callText j.joiner.name.toList (first.text :: levelTexts j.joiner s rest)

theorem isCallText_levelTexts {j : Joiner} {first : Segment '\\'}
    {rest : List (Joint × Segment '\\')} (hf : first.IsCall) (hr : ∀ p ∈ rest, p.2.IsCall) :
    ∀ t ∈ levelTexts j first rest, IsCallText t := by
  induction rest generalizing j first with
  | nil => simpa [levelTexts] using isCallText hf
  | cons p rest ih =>
      obtain ⟨k, s⟩ := p
      simp only [List.mem_cons, forall_eq_or_imp] at hr
      rw [levelTexts]
      split
      · exact List.forall_mem_cons.2 ⟨isCallText hf, ih hr.1 hr.2⟩
      · have hts := List.forall_mem_cons.2 ⟨isCallText hf, ih hr.1 hr.2 (j := k.joiner)⟩
        simpa using isCallText_callText k.joiner.name_ne k.joiner.isWord_name hts

end Segment

theorem Aggregate.joiner_add (a : Aggregate) (c : Call) : (a.add c).joiner = a.joiner := by
  unfold add
  split <;> rfl

namespace Query

variable {tags : TagTable} {limit fuel fuel' room room' : Nat} {a : Aggregate} {t : List Char}
  {ts : List (List Char)} {s first : Segment '\\'}

def readTexts (tags : TagTable) (limit fuel room : Nat) (a : Aggregate) (ts : List (List Char)) :
    Except Fault Call :=
  (arguments tags.read (readCall tags ⟨'\\', limit⟩ fuel) limit room (ts.map .ofText)).map
    fun args => ⟨a.joiner.name, a.args ++ args⟩

/-- The text of a call is read as the call of what its arguments are read as. -/
theorem readCall_callText (j : Joiner) (h : ∀ t ∈ ts, IsCallText t) :
    readCall tags ⟨'\\', limit⟩ (fuel + 1) room (callText j.name.toList ts) =
      readTexts tags limit fuel room (.start j) ts := by
  obtain ⟨y, hy⟩ := passes_intercalate h
  rw [callText, readCall_call (fun c hc => isNameChar_of_isWord (j.isWord_name c hc)) hy (by simp),
    readBody, Chunk.ofBody, Chunk.splitFrom_intercalate h, String.ofList_toList]
  rfl

theorem readTexts_nil : readTexts tags limit fuel room a [] = .ok a.toCall := by
  simp [readTexts, arguments, Aggregate.toCall, Except.map]

theorem readTexts_tooDeep (ht : IsCallText t) (hr : room < 2) :
    readTexts tags limit fuel room a (t :: ts) = .error (.parse (.tooDeep limit)) := by
  rw [readTexts, List.map_cons, arguments, Chunk.ofText,
    argument_tooDeep (by simpa using ht.startsCall) hr]
  rfl

/-- As an argument, a call takes two levels. -/
theorem readTexts_cons (ht : IsCallText t) :
    readTexts tags limit fuel (room + 2) a (t :: ts) =
      readCall tags ⟨'\\', limit⟩ fuel room t >>= fun c =>
        readTexts tags limit fuel (room + 2) ⟨a.joiner, a.args ++ [c.toTerm]⟩ ts := by
  rw [readTexts, List.map_cons, arguments, Chunk.ofText,
    argument_call (by simpa using ht.startsCall), String.toList_ofList]
  cases readCall tags ⟨'\\', limit⟩ fuel room t with
  | error e => rfl
  | ok c =>
      rw [ok_bind, readTexts]
      cases arguments tags.read (readCall tags ⟨'\\', limit⟩ fuel) limit (room + 2)
          (ts.map .ofText) with
      | error e => rfl
      | ok args => simp [Except.map]

theorem upTo_readCall_segment (hf : fuel ≤ fuel' + 1) (hr : room ≤ room') (s : Segment '\\') :
    UpTo (.parse (.tooDeep limit)) (readCall tags ⟨'\\', limit⟩ fuel room s.text)
      (s.node (readBody tags ⟨'\\', limit⟩ fuel') room') := by
  cases fuel with
  | zero => exact .fault _ _
  | succ fuel =>
      rw [readCall_segment (o := ⟨'\\', limit⟩)]
      exact Segment.upTo_node (upTo_readBody_of_le (Nat.le_refl _) (by omega) hr) s

theorem upTo_readTexts_segment {g : Call → Except Fault Call} (hs : s.IsCall)
    (hf : fuel ≤ fuel' + 1) (hr : room ≤ room')
    (h : ∀ c, UpTo (.parse (.tooDeep limit)) (readTexts tags limit fuel room (a.add c) ts) (g c)) :
    UpTo (.parse (.tooDeep limit)) (readTexts tags limit fuel room a (s.text :: ts))
      (s.node (readBody tags ⟨'\\', limit⟩ fuel') room' >>= g) := by
  have ht := Segment.isCallText hs
  by_cases hd : room < 2
  · rw [readTexts_tooDeep ht hd]
    exact .fault _ _
  · obtain ⟨r, rfl⟩ : ∃ r, room = r + 2 := ⟨room - 2, by omega⟩
    rw [readTexts_cons ht]
    have hread := @upTo_readCall_segment tags limit fuel fuel' r room' hf (by omega) s
    refine hread.bind fun c hc => ?_
    rw [← Aggregate.add_of_isEmpty_eq_false (Segment.isEmpty_of_node (hread.eq_ok hc))]
    exact h c

theorem upTo_readCall_level {j : Joiner} {g : Call → Except Fault Call} (hs : s.IsCall)
    (hts : ∀ t ∈ ts, IsCallText t) (hf : fuel ≤ fuel' + 1) (hr : room ≤ room')
    (h : ∀ k c, k + 1 = fuel → UpTo (.parse (.tooDeep limit))
      (readTexts tags limit k room ((Aggregate.start j).add c) ts) (g c)) :
    UpTo (.parse (.tooDeep limit))
      (readCall tags ⟨'\\', limit⟩ fuel room (callText j.name.toList (s.text :: ts)))
      (s.node (readBody tags ⟨'\\', limit⟩ fuel') room' >>= g) := by
  cases fuel with
  | zero => exact .fault _ _
  | succ fuel =>
      rw [readCall_callText j (List.forall_mem_cons.2 ⟨Segment.isCallText hs, hts⟩)]
      exact upTo_readTexts_segment hs (by omega) hr fun c => h fuel c rfl

/-- What is left of a level is gathered as its explicit arguments are read. The explicit call is at
no time higher up than the level for which it stands. -/
theorem upTo_gather_levelTexts {rest : List (Joint × Segment '\\')} {j : Joiner}
    (ha : a.joiner = j) (hs : first.IsCall) (hrest : ∀ p ∈ rest, p.2.IsCall) (hf : fuel ≤ fuel')
    (hr : room ≤ room') :
    UpTo (.parse (.tooDeep limit)) (readTexts tags limit fuel room a (first.levelTexts j rest))
      (gather (readBody tags ⟨'\\', limit⟩ fuel') limit room' (some a) .empty
        (first.joinedPieces rest)) := by
  induction rest generalizing first j a fuel room room' with
  | nil =>
      rw [Segment.joinedPieces, ← List.append_nil first.pieces, Segment.gather_pieces,
        Segment.levelTexts]
      refine upTo_readTexts_segment hs (by omega) hr fun c => ?_
      rw [readTexts_nil, gather]
      exact .refl _ _
  | cons p rest ih =>
      obtain ⟨k, s⟩ := p
      simp only [List.mem_cons, forall_eq_or_imp] at hrest
      obtain ⟨hnext, hrest⟩ := hrest
      rw [Segment.joinedPieces, Segment.gather_pieces, Segment.levelTexts]
      by_cases hk : k.joiner = j
      · rw [if_pos hk]
        refine upTo_readTexts_segment hs (by omega) hr fun c => ?_
        rw [gather_same (ha.trans hk.symm)]
        exact ih ((a.joiner_add c).trans ha) hnext hrest hf hr
      · rw [if_neg hk]
        have hts := Segment.isCallText_levelTexts (j := k.joiner) hnext hrest
        have hcall := isCallText_callText k.joiner.name_ne k.joiner.isWord_name
          (List.forall_mem_cons.2 ⟨Segment.isCallText hs, hts⟩)
        -- All the rest is one argument, two levels down where `gather` goes down by one.
        by_cases hd : room < 2
        · rw [readTexts_tooDeep hcall hd]
          exact .fault _ _
        · obtain ⟨r, rfl⟩ : ∃ r, room = r + 2 := ⟨room - 2, by omega⟩
          obtain ⟨room', rfl⟩ : ∃ r, room' = r + 1 := ⟨room' - 1, by omega⟩
          have hother : a.joiner ≠ k.joiner := fun h => hk (h.symm.trans ha)
          simp only [gather_other hother, bind_map, readTexts_cons hcall, readTexts_nil]
          refine UpTo.bind ?_ fun _ _ => .refl _ _
          refine upTo_readCall_level hs hts (by omega) (by omega) fun f c hf => ?_
          exact ih (Aggregate.joiner_add _ c) hnext hrest (by omega) (by omega)

variable {m : Nat}

/-- Explicit calls are read as the joined ones whose place they take, and only in them can the
limit be met earlier. -/
theorem readExpanded_explicitText {first : Segment '\\'} {rest : List (Joint × Segment '\\')}
    (hf : first.IsCall) (hr : ∀ p ∈ rest, p.2.IsCall) :
    readExpanded tags ⟨'\\', m⟩ (String.ofList (first.explicitText rest)) =
        .error (.parse (.tooDeep m)) ∨
      readExpanded tags ⟨'\\', m⟩ (String.ofList (first.explicitText rest)) =
        readExpanded tags ⟨'\\', m⟩ (String.ofList (first.joinedText rest)) := by
  cases rest with
  | nil => exact .inr rfl
  | cons p rest =>
      obtain ⟨j, s⟩ := p
      simp only [List.mem_cons, forall_eq_or_imp] at hr
      have hj := Segment.ofText_joinedText first ((j, s) :: rest)
      rw [readExpanded, readExpanded, String.toList_ofList, String.toList_ofList,
        readCall_succ tags ⟨'\\', m⟩ m m (first.joinedText _), hj, Segment.joinedPieces,
        Segment.gather_pieces, Segment.explicitText]
      simp only [gather_first]
      refine upTo_readCall_level hf (Segment.isCallText_levelTexts hr.1 hr.2) (Nat.le_refl _)
        (Nat.le_refl _) fun k c hk => ?_
      exact upTo_gather_levelTexts (Aggregate.joiner_add _ c) hr.1 hr.2 (by omega) (Nat.le_refl _)

theorem readExpanded_explicitText_mixed :
    let a : Segment '\\' := ⟨['a'], some [')'], by decide, by decide, by
      rintro t ⟨⟩
      exact ⟨⟨[], [], []⟩, rfl, rfl⟩⟩
    let b : Segment '\\' := ⟨['b'], some ['(', ')', ')'], by decide, by decide, by
      rintro t ⟨⟩
      exact ⟨⟨['(', ')'], ['(', ')'], []⟩, rfl, rfl⟩⟩
    let c : Segment '\\' := ⟨['c'], some ['d', '(', ')', ')'], by decide, by decide, by
      rintro t ⟨⟩
      exact ⟨⟨['d', '(', ')'], ['d', '(', ')'], []⟩, rfl, rfl⟩⟩
    let rest : List (Joint × Segment '\\') := [(⟨'&', .and, rfl⟩, b), (⟨'|', .or, rfl⟩, c)]
    a.IsCall ∧ (∀ p ∈ rest, p.2.IsCall) ∧
    String.ofList (a.explicitText rest) = "and(a(),or(b(()),c(d())))" ∧
    readExpanded .standard .default (String.ofList (a.joinedText rest)) =
      readExpanded .standard .default "and(a(),or(b(()),c(d())))" := by
  intro a b c rest
  have ha : a.IsCall := ⟨by decide, by decide⟩
  have hb : b.IsCall := ⟨by decide, by decide⟩
  have hc : c.IsCall := ⟨by decide, by decide⟩
  have hrest : ∀ p ∈ rest, p.2.IsCall := by simp [rest, hb, hc]
  have ht : String.ofList (a.explicitText rest) = "and(a(),or(b(()),c(d())))" := by cbv
  have hok : (readExpanded .standard .default "and(a(),or(b(()),c(d())))").isOk := by cbv
  have h : readExpanded .standard .default (String.ofList (a.explicitText rest)) = _ ∨
      readExpanded .standard .default (String.ofList (a.explicitText rest)) = _ :=
    readExpanded_explicitText ha hrest
  rw [ht] at h
  rcases h with h | h
  · simp [h, Except.isOk, Except.toBool] at hok
  · exact ⟨ha, hrest, ht, h.symm⟩

end Query

end ResourceQuery
