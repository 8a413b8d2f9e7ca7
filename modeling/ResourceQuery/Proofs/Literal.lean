import Mathlib
import ResourceQuery.Proofs.Escaping
import ResourceQuery.Proofs.Gathering

namespace ResourceQuery

open Outcome Text

variable {e : Char}

namespace Chunk

theorem not_isMarked_of_isBlank {c : Char} (h : isBlank c) : ¬isMarked c := by
  obtain ⟨hq, ho, hc, hm⟩ := not_marked_of_isBlank h
  simp [isMarked, hq, ho, hc, hm]

theorem isMarked_of_mark {c : Char} (h : isQuote c ∨ c = '(' ∨ c = ')' ∨ c = ',') : isMarked c := by
  rcases h with h | rfl | rfl | rfl <;> first | rfl | simp [isMarked, h]

/-- The chunks of an escaped text: the text itself, without blanks and quotes around it. -/
def ofEscaped (s : List Char) : List Chunk :=
  if s.all isBlank then [] else [.text (String.ofList (bare s))]

theorem ofEscaped_blank {c : Char} (h : isBlank c) (s : List Char) :
    ofEscaped (c :: s) = ofEscaped s := by
  rw [ofEscaped, ofEscaped, List.all_cons, h, Bool.true_and, bare, trim,
    List.dropWhile_cons_of_pos h, bare, trim]

theorem splitFrom_ofEscaped (he : IsEscape e) (limit room : Nat) (s : List Char) :
    splitFrom e limit room .plain [] (escape e isMarked s) = .ok (ofEscaped s) := by
  induction s with
  | nil =>
      rw [escape, List.flatMap_nil, splitFrom]
      rfl
  | cons c s ih =>
      by_cases hb : isBlank c
      · have hc : ¬(isMarked c ∨ c = e) := fun h =>
          h.elim (not_isMarked_of_isBlank hb) (he.ne_blank hb)
        rw [escape_cons_plain hc, List.singleton_append, splitFrom_blank (he.ne_blank hb) hb, ih,
          ofEscaped_blank hb]
      · have hm : ∀ d, isQuote d ∨ d = '(' ∨ d = ',' → isMarked d := fun d hd =>
          isMarked_of_mark (hd.imp_right (Or.imp_right .inr))
        have hhead : ∀ d ∈ (c :: s).head?, ¬isBlank d := by simpa using hb
        have hs := @splitFrom_escape e limit room isMarked hm [] (c :: s) (.inr hhead) []
        rw [List.append_nil, List.append_nil] at hs
        rw [hs, splitFrom]
        simp [ofEscaped, hb]

end Chunk

/-- Nothing but its tag and its value can be wrong with a leaf. -/
theorem TagTable.read_ne_unclosed (tags : TagTable) (text : String) (s : String) :
    tags.read text ≠ .error (.parse (.unclosedGroup s)) := by
  unfold read
  split
  · cases tags.auto _ <;> simp [Except.mapError]
  · split
    · simp
    · rename_i read _
      cases read _ <;> simp [Except.mapError]

namespace Query

def escapedCall (s : String) : String :=
  "f(" ++ String.ofList (escape '\\' Chunk.isMarked s.toList) ++ ")"

theorem readBody_escape {tags : TagTable} {o : Options} (he : Chunk.IsEscape o.escape)
    (fuel room : Nat) (s : List Char) :
    readBody tags o fuel room (escape o.escape Chunk.isMarked s) =
      arguments tags.read (readCall tags o fuel) o.maxDepth room (Chunk.ofEscaped s) := by
  rw [readBody, Chunk.ofBody, Chunk.splitFrom_ofEscaped he]
  rfl

theorem readExpanded_escape (tags : TagTable) (s : String) :
    readExpanded tags .default (escapedCall s) =
      (arguments tags.read (readCall tags .default 128) 128 128 (Chunk.ofEscaped s.toList)).map
        fun args => ⟨"f", args⟩ := by
  have he : Chunk.IsEscape Options.default.escape := ⟨by decide, by decide, by decide, by decide⟩
  have hx := Group.passes_escape (e := Options.default.escape)
    (fun c hc => Chunk.isMarked_of_mark (hc.imp_right (Or.imp_right .inl))) s.toList
  have ht : (escapedCall s).toList =
      ['f'] ++ ('(' :: escape Options.default.escape Chunk.isMarked s.toList ++ [')']) := by
    simp [escapedCall, Options.default]
  rw [readExpanded, ht, readCall_call (by decide) hx (by decide), readBody_escape he]
  rfl

theorem arguments_escaped_leaf {leaf : String → Except Fault Value}
    {call : Nat → List Char → Except Fault Call} {limit room : Nat} {s : List Char}
    (h : startsCall (bare s) = false) :
    arguments leaf call limit room (Chunk.ofEscaped s) =
      if s.all isBlank then .ok [] else (leaf (String.ofList (bare s))).map ([.leaf ·]) := by
  rw [Chunk.ofEscaped]
  split
  · rw [arguments]
    rfl
  · rw [arguments_singleton, argument_leaf (by rwa [String.toList_ofList])]
    cases leaf (String.ofList (bare s)) <;> rfl

theorem arguments_escaped_call {leaf : String → Except Fault Value}
    {call : Nat → List Char → Except Fault Call} {limit room : Nat} {s : List Char}
    (h : startsCall (bare s)) :
    arguments leaf call limit (room + 2) (Chunk.ofEscaped s) =
      (call room (bare s)).map ([·.toTerm]) := by
  have hs : ¬s.all isBlank := fun hb => by
    have hnil : s.dropWhile isBlank = [] := List.dropWhile_eq_nil_iff.2 (List.all_eq_true.1 hb)
    rw [bare, trim, hnil] at h
    simp [trimEnd, unquote, startsCall] at h
  rw [Chunk.ofEscaped, if_neg hs, arguments_singleton,
    argument_call (by rwa [String.toList_ofList]), String.toList_ofList]
  cases call room (bare s) <;> rfl

/-- The escape keeps the marks of a text from ending or dividing the argument, but it is gone where
the argument is read. A text that then shows to be a call is read as one; any other is a leaf. -/
theorem readExpanded_escapedCall (s : String) :
    (startsCall (bare s.toList) = false →
      (∀ t, readExpanded .standard .default (escapedCall s) ≠ .error (.parse (.unclosedGroup t))) ∧
      ∀ c, readExpanded .standard .default (escapedCall s) = .ok c →
        c.name = "f" ∧ ∀ a ∈ c.args, ∃ v, a = .leaf v) ∧
    (startsCall (bare s.toList) = true →
      readExpanded .standard .default (escapedCall s) =
        (readCall .standard .default 128 126 (bare s.toList)).map
          fun c => ⟨"f", [c.toTerm]⟩) := by
  rw [readExpanded_escape]
  refine ⟨fun h => ?_, fun h => ?_⟩
  · rw [arguments_escaped_leaf h]
    split
    · exact ⟨fun t ht => by simp [Except.map] at ht, fun c hc => by
        obtain ⟨args, ha, rfl⟩ := map_eq_ok.1 hc
        rw [Except.ok.injEq] at ha
        simp [← ha]⟩
    · cases hl : TagTable.standard.read (String.ofList (bare s.toList)) with
      | error f =>
          refine ⟨fun t ht => ?_, fun c hc => by simp [Except.map] at hc⟩
          exact TagTable.standard.read_ne_unclosed _ t (hl.trans (by simpa [Except.map] using ht))
      | ok v => exact ⟨fun t ht => by simp [Except.map] at ht, fun c hc => by
          obtain ⟨args, ha, rfl⟩ := map_eq_ok.1 hc
          rw [Except.map, Except.ok.injEq] at ha
          simp [← ha]⟩
  · rw [arguments_escaped_call h]
    cases readCall .standard .default 128 126 (bare s.toList) <;> rfl

theorem readExpanded_escapedCall_leaf :
    ∃ c, readExpanded .standard .default (escapedCall "string:(") = .ok c ∧
      c.name = "f" ∧ ∀ a ∈ c.args, ∃ v, a = .leaf v := by
  have hread : TagTable.standard.read (String.ofList (bare "string:(".toList)) =
      .ok (.string "(") := by cbv
  have h : readExpanded .standard .default (escapedCall "string:(") =
      .ok ⟨"f", [.leaf (.string "(")]⟩ := by
    rw [readExpanded_escape, arguments_escaped_leaf (by decide), if_neg (by decide), hread]
    rfl
  exact ⟨_, h, ((readExpanded_escapedCall "string:(").1 (by decide)).2 _ h⟩

/-- Where the escaped text shows to be a call, its parentheses count again. -/
theorem readExpanded_escapedCall_opened :
    readExpanded .standard .default (escapedCall "a(b") =
        .error (.parse (.unclosedGroup "(b")) ∧
      readExpanded .standard .default (escapedCall "a()") = .ok ⟨"f", [.call "a" []]⟩ := by
  constructor <;> cbv

end Query

end ResourceQuery
