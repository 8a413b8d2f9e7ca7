import Mathlib
import ResourceQuery.Proofs.Rereading

namespace ResourceQuery

open Outcome

namespace TagTable

variable {t : TagTable} {tag tag' text : String} {r : Leaf.Reader}

theorem find?_insert : (t.insert tag r).find? tag = some r := by
  simp [find?, insert]

theorem find?_insert_of_ne (h : tag' ≠ tag) : (t.insert tag r).find? tag' = t.find? tag' := by
  have hf : (t.entries.filter (·.1 != tag)).find? (·.1 == tag') =
      t.entries.find? (·.1 == tag') := by
    rw [List.find?_filter]
    congr 1
    funext e
    by_cases he : e.1 = tag'
    · simp [he, h]
    · simp [he]
  rw [find?, insert, List.find?_cons_of_neg (by simpa using h.symm), hf, find?]

theorem auto_insert (r : Leaf.Reader) : (t.insert autoTag r).auto = r := by
  rw [auto, find?_insert, Option.getD_some]

theorem auto_insert_of_ne (h : tag ≠ autoTag) : (t.insert tag r).auto = t.auto := by
  rw [auto, find?_insert_of_ne h.symm, auto]

theorem get?_eq_none (h : t.contains tag = false) : t.get? tag = none := by
  rwa [contains, Option.isSome_eq_false_iff, Option.isNone_iff_eq_none] at h

/-- A tag that a table did not have is found for itself, and for a tag in capital letters that the
table did not have either. -/
theorem get?_insert (h : t.contains tag = false) (tag' : String) :
    (t.insert tag r).get? tag' = t.get? tag' ∨
      t.get? tag' = none ∧ (tag' = tag ∨ Unicode.toLower tag' = tag) := by
  have hnone := get?_eq_none h
  by_cases heq : tag' = tag
  · exact .inr ⟨heq ▸ hnone, .inl heq⟩
  rw [get?, get?, find?_insert_of_ne heq]
  by_cases hlower : Unicode.toLower tag' = tag
  · cases hf : t.find? tag' with
    | some read => exact .inl rfl
    | none =>
        rw [get?, Option.or_eq_none_iff] at hnone
        exact .inr ⟨by rw [hlower, hnone.1, Option.or_none], .inr hlower⟩
  · rw [find?_insert_of_ne hlower]
    exact .inl rfl

end TagTable

/-- The same results, unless the first one is a fault of a kind. -/
def UpToKind {ε α : Type} (P : ε → Prop) (x y : Except ε α) : Prop :=
  (∃ e, P e ∧ x = .error e) ∨ x = y

namespace UpToKind

variable {ε α β : Type} {P : ε → Prop} {x y : Except ε α}

theorem refl (P : ε → Prop) (x : Except ε α) : UpToKind P x x := .inr rfl

theorem bind {f g : α → Except ε β} (h : UpToKind P x y) (hf : ∀ a, UpToKind P (f a) (g a)) :
    UpToKind P (x >>= f) (y >>= g) := by
  rcases h with ⟨e, he, rfl⟩ | rfl
  · exact .inl ⟨e, he, rfl⟩
  · cases x with
    | ok a => exact hf a
    | error e => exact refl P _

theorem map (h : UpToKind P x y) (f : α → β) : UpToKind P (x.map f) (y.map f) := by
  rcases h with ⟨e, he, rfl⟩ | rfl
  · exact .inl ⟨e, he, rfl⟩
  · exact refl P _

end UpToKind

namespace Query

variable {P : Fault → Prop} {leaf leaf' : String → Except Fault Value}
  {call call' : Nat → List Char → Except Fault Call} {limit : Nat}

mutual

theorem upToKind_argument (hl : ∀ s, UpToKind P (leaf s) (leaf' s))
    (hc : ∀ room s, UpToKind P (call room s) (call' room s)) (room : Nat) (c : Chunk) :
    UpToKind P (argument leaf call limit room c) (argument leaf' call' limit room c) := by
  match c with
  | .list items =>
      rw [argument, argument]
      exact (upToKind_arguments hl hc (room - 1) items).bind fun _ => .refl P _
  | .text s =>
      by_cases hs : startsCall s.toList
      · by_cases hr : room < 2
        · rw [argument_tooDeep hs hr, argument_tooDeep hs hr]
          exact .refl P _
        · obtain ⟨room, rfl⟩ : ∃ r, room = r + 2 := ⟨room - 2, by omega⟩
          rw [argument_call hs, argument_call hs]
          exact (hc room s.toList).map _
      · have hs := Bool.eq_false_iff.2 hs
        rw [argument_leaf hs, argument_leaf hs]
        exact (hl s).map _

theorem upToKind_arguments (hl : ∀ s, UpToKind P (leaf s) (leaf' s))
    (hc : ∀ room s, UpToKind P (call room s) (call' room s)) (room : Nat) (cs : List Chunk) :
    UpToKind P (arguments leaf call limit room cs) (arguments leaf' call' limit room cs) := by
  match cs with
  | [] =>
      rw [arguments, arguments]
      exact .refl P _
  | c :: cs =>
      rw [arguments, arguments]
      exact (upToKind_argument hl hc room c).bind fun _ =>
        (upToKind_arguments hl hc room cs).bind fun _ => .refl P _

end

theorem upToKind_gather {body body' : Nat → List Char → Except Fault (List Term)}
    (hb : ∀ room b, UpToKind P (body room b) (body' room b)) (room : Nat)
    (gathered : Option Aggregate) (current : Call) (ps : List Piece) :
    UpToKind P (gather body limit room gathered current ps)
      (gather body' limit room gathered current ps) := by
  induction ps generalizing room gathered current with
  | nil => cases gathered <;> exact .refl P _
  | cons p ps ih =>
      cases p with
      | char c =>
          rw [gather, gather]
          exact ih room gathered _
      | group b =>
          rw [gather, gather]
          exact (hb room b).bind fun _ => ih room gathered _
      | unclosed s =>
          rw [gather, gather]
          exact .refl P _
      | joiner j =>
          cases gathered with
          | none =>
              rw [gather_first, gather_first]
              exact ih room _ _
          | some a =>
              by_cases hj : a.joiner = j
              · rw [gather_same hj, gather_same hj]
                exact ih room _ _
              · cases room with
                | zero =>
                    rw [gather_other_zero hj, gather_other_zero hj]
                    exact .refl P _
                | succ room =>
                    rw [gather_other hj, gather_other hj]
                    exact (ih room _ _).map _

variable {tags tags' : TagTable}

theorem upToKind_readCall (hl : ∀ s, UpToKind P (tags.read s) (tags'.read s)) (o : Options)
    (fuel room : Nat) (s : List Char) :
    UpToKind P (readCall tags o fuel room s) (readCall tags' o fuel room s) := by
  induction fuel generalizing room s with
  | zero => exact .refl P _
  | succ fuel ih =>
      rw [readCall_succ, readCall_succ]
      refine upToKind_gather (fun room b => ?_) room none .empty _
      exact (UpToKind.refl P _).bind fun chunks => upToKind_arguments hl ih room chunks

/-- What a query is read as depends on nothing but what its leaves are read as. -/
theorem upToKind_read (hl : ∀ s, UpToKind P (tags.read s) (tags'.read s)) (o : Options)
    (text : String) : UpToKind P (read tags o text) (read tags' o text) := by
  unfold read
  split
  · exact .refl P _
  · exact .refl P _
  · exact (UpToKind.refl P _).bind fun expanded =>
      upToKind_readCall hl o (o.maxDepth + 1) o.maxDepth expanded.toList

end Query

namespace TagTable

variable {t : TagTable} {tag : String} {r : Leaf.Reader}

/-- Adding a tag changes what a leaf is read as only where the tag was missing. -/
theorem upToKind_read_insert (ha : tag ≠ autoTag) (h : t.contains tag = false) (text : String) :
    UpToKind (fun f => ∃ x, f = .parse (.unknownTag x) ∧ (x = tag ∨ Unicode.toLower x = tag))
      (t.read text) ((t.insert tag r).read text) := by
  unfold read
  cases splitTag text.toList with
  | none =>
      rw [auto_insert_of_ne ha]
      exact .refl _ _
  | some parts =>
      obtain ⟨x, rest⟩ := parts
      simp only
      rcases get?_insert (r := r) h (String.ofList x) with heq | ⟨hnone, hx⟩
      · rw [heq]
        exact .refl _ _
      · rw [hnone]
        exact .inl ⟨_, ⟨_, rfl, hx⟩, rfl⟩

end TagTable

namespace Query

/-- Adding a tag that a table has not, but for that of leaves without tag, changes only results
that were the fault that this very tag is unknown. What has been read is read the same. -/
theorem read_insert {tags : TagTable} {tag : String} (ha : tag ≠ TagTable.autoTag)
    (h : tags.contains tag = false) (r : Leaf.Reader) (o : Options) (text : String) :
    (∀ c, read tags o text = .ok c → read (tags.insert tag r) o text = .ok c) ∧
      ∀ f, read tags o text = .error f → read (tags.insert tag r) o text = .error f ∨
        ∃ x, f = .parse (.unknownTag x) ∧ (x = tag ∨ Unicode.toLower x = tag) := by
  have hr := upToKind_read (fun s => TagTable.upToKind_read_insert (r := r) ha h s) o text
  rcases hr with ⟨f, hf, he⟩ | he
  · refine ⟨fun c hc => ?_, fun f' hf' => .inr ?_⟩
    · simp [hc] at he
    · obtain rfl := Except.error.inj (he.symm.trans hf')
      exact hf
  · exact ⟨fun c hc => he ▸ hc, fun f hf => .inl (he ▸ hf)⟩

theorem read_insert_capital :
    (TagTable.standard.insert "RE2" Leaf.boolean).contains "re2" = false ∧
      read (TagTable.standard.insert "RE2" Leaf.boolean) .default "f(RE2:true)" =
        .ok ⟨"f", [.leaf (.boolean true)]⟩ ∧
      read ((TagTable.standard.insert "RE2" Leaf.boolean).insert "re2" Leaf.string) .default
        "f(RE2:true)" = .ok ⟨"f", [.leaf (.boolean true)]⟩ := by
  have hnew : (TagTable.standard.insert "RE2" Leaf.boolean).contains "re2" = false := by decide
  have hleaf : (TagTable.standard.insert "RE2" Leaf.boolean).read "RE2:true" =
      .ok (.boolean true) := by cbv
  generalize TagTable.standard.insert "RE2" Leaf.boolean = tags at *
  have hchunks : Chunk.ofBody '\\' 128 "RE2:true".toList = .ok [.text "RE2:true"] := by cbv
  have hbody : readBody tags .default 128 128 "RE2:true".toList =
      .ok [.leaf (.boolean true)] := by
    refine (readBody_of_ofBody hchunks tags 128 128).trans ?_
    rw [arguments_singleton, argument_leaf (by decide), hleaf]
    rfl
  have hread : read tags .default "f(RE2:true)" = .ok ⟨"f", [.leaf (.boolean true)]⟩ := by
    have hx : Group.Balanced '\\' "RE2:true".toList := Group.balanced_of_plain (by decide)
    rw [read_eq_readExpanded (c := 'f') rfl (by decide)
      ⟨by decide, Shorthand.noBracket_of_notMem (by decide)⟩]
    exact (@readCall_call tags .default 128 128 ['f'] _ _ (by decide) hx.passes
      (by decide)).trans (congrArg _ hbody)
  exact ⟨hnew, hread, (read_insert (by decide) hnew Leaf.string .default _).1 _ hread⟩

end Query

namespace TagTable

variable {f : Leaf.Reader} {s : String}

theorem readsBack_insert_auto :
    (standard.insert autoTag f).readsBack (.string s) ↔ f s = .ok (.string s) := by
  rw [readsBack, auto_insert, Value.plain]
  cases f s with
  | error e => simp
  | ok v => cases v <;> simp [Value.same]

theorem writeValue_insert_auto (hne : s ≠ "") (h : f s = .ok (.string s)) :
    (standard.insert autoTag f).writeValue (.string s) = Percent.encode s := by
  rw [writeValue, if_neg (by simpa using hne), if_pos (readsBack_insert_auto.2 h)]

theorem read_encode_insert_auto (f : Leaf.Reader) (s : String) :
    (standard.insert autoTag f).read (Percent.encode s) =
      (f (Percent.encode s)).mapError .conversion := by
  rw [read_untagged (colon_notMem_encode s) (backslash_notMem_encode s), auto_insert]

theorem read_string_insert_auto (f : Leaf.Reader) (s : String) :
    (standard.insert autoTag f).read ("string:" ++ Percent.encode s) = .ok (.string s) := by
  have hr : (standard.insert autoTag f).get? "string" = some Leaf.string := by
    rw [get?, find?_insert_of_ne (by decide)]
    rfl
  have hread := @read_tagged _ "string" _ _ (by decide) (by decide) hr (backslash_notMem_encode s)
  refine hread.trans ?_
  rw [Leaf.string, Leaf.decoded, Percent.decode?_encode]
  rfl

theorem read_writeValue_insert_auto_of_ne (h : s = "" ∨ f s ≠ .ok (.string s)) :
    (standard.insert autoTag f).read ((standard.insert autoTag f).writeValue (.string s)) =
      .ok (.string s) := by
  rw [writeValue]
  split
  · rename_i he
    obtain rfl := String.isEmpty_iff.1 he
    exact read_string_insert_auto f ""
  · rename_i he
    have hs : s ≠ "" := fun h => he (String.isEmpty_iff.2 h)
    rw [if_neg fun hr => h.elim hs fun hne => hne (readsBack_insert_auto.1 hr)]
    exact read_string_insert_auto f s

/-- Whether a string needs a tag is found out from the text itself, and what is written without
tag is its coded form. Where the reader that replaces that of untagged leaves takes the text for
the string, the string is read back only if that reader takes the coded form for it as well. So
all readers give back a string exactly if it needs no code. -/
theorem read_writeValue_insert_auto (s : String) :
    (∀ f, s ≠ "" → f s = .ok (.string s) →
      (standard.insert autoTag f).writeValue (.string s) = Percent.encode s ∧
        (standard.insert autoTag f).read ((standard.insert autoTag f).writeValue (.string s)) =
          (f (Percent.encode s)).mapError .conversion) ∧
      (∀ f, s = "" ∨ f s ≠ .ok (.string s) → (standard.insert autoTag f).read
        ((standard.insert autoTag f).writeValue (.string s)) = .ok (.string s)) ∧
      ((∀ f, (standard.insert autoTag f).read
        ((standard.insert autoTag f).writeValue (.string s)) = .ok (.string s)) ↔
          ∀ c ∈ s.toList, Percent.isPlain c) := by
  have hwritten (f : Leaf.Reader) (hne : s ≠ "") (h : f s = .ok (.string s)) :
      (standard.insert autoTag f).read ((standard.insert autoTag f).writeValue (.string s)) =
        (f (Percent.encode s)).mapError .conversion := by
    rw [writeValue_insert_auto hne h, read_encode_insert_auto]
  refine ⟨fun f hne h => ⟨writeValue_insert_auto hne h, hwritten f hne h⟩,
    fun f => read_writeValue_insert_auto_of_ne, fun h => ?_, fun h f => ?_⟩
  · by_cases hne : s = ""
    · simp [hne]
    · have hraw := (hwritten (fun text => .ok (.string text)) hne rfl).symm.trans (h _)
      exact Percent.encode_eq_self_iff.1 (Value.string.inj (Except.ok.inj hraw))
  · by_cases hf : s ≠ "" ∧ f s = .ok (.string s)
    · rw [hwritten f hf.1 hf.2, Percent.encode_eq_self h, hf.2]
      rfl
    · exact read_writeValue_insert_auto_of_ne (by tauto)

theorem read_writeValue_insert_auto_raw :
    let tags := standard.insert autoTag fun text => .ok (.string text)
    tags.read (tags.writeValue (.string "a~b")) = .ok (.string "a~b") ∧
      tags.writeValue (.string "10%") = "10%25" ∧
      tags.read (tags.writeValue (.string "10%")) = .ok (.string "10%25") := by
  intro tags
  have hplain := (read_writeValue_insert_auto "a~b").2.2.2 (by decide)
  have hcoded := (read_writeValue_insert_auto "10%").1 (fun text => .ok (.string text))
    (by decide) rfl
  have he : Percent.encode "10%" = "10%25" := by decide
  rw [he] at hcoded
  exact ⟨hplain _, hcoded.1, hcoded.2⟩

theorem read_writeValue_insert_auto_blank :
    let tags := standard.insert autoTag fun text => .ok (.string text)
    tags.writeValue (.string "a b") = "a%20b" ∧
      tags.read (tags.writeValue (.string "a b")) = .ok (.string "a%20b") ∧
      tags.read (tags.writeValue (.string "a b")) ≠ .ok (.string "a b") := by
  intro tags
  have he : Percent.encode "a b" = "a%20b" := by decide
  have hw : tags.writeValue (.string "a b") = "a%20b" :=
    (writeValue_insert_auto (by decide) rfl).trans he
  have hr : tags.read (tags.writeValue (.string "a b")) = .ok (.string "a%20b") := by
    rw [hw, ← he]
    exact read_encode_insert_auto _ "a b"
  exact ⟨hw, hr, by simp [hr]⟩

end TagTable

end ResourceQuery
