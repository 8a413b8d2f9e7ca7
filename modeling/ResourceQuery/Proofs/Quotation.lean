import ResourceQuery.Json.Reading
import ResourceQuery.Proofs.Outcome

namespace ResourceQuery.Json

open Outcome

def size (s : List Char) : Nat := (utf8 s).length

@[simp] theorem size_nil : size [] = 0 := rfl

@[simp] theorem size_cons (c : Char) (s : List Char) : size (c :: s) = c.utf8Size + size s := by
  simp [size, utf8]

@[simp] theorem size_append (s t : List Char) : size (s ++ t) = size s + size t := by
  simp [size, utf8]

theorem add_size_le_size_cons {c d : Char} (h : c.utf8Size ≤ d.utf8Size) (s : List Char) :
    c.utf8Size + size s ≤ size (d :: s) := by
  rw [size_cons]
  omega

theorem readUnit_size {s rest : List Char} {n : Nat} (h : readUnit s = .ok (n, rest)) :
    size rest + 4 ≤ size s := by
  unfold readUnit at h
  split at h
  · rename_i u hu
    unfold unit? at hu
    split at hu
    · rename_i a b c d t
      simp only [Option.bind_eq_bind, Option.bind_eq_some_iff, Option.pure_def,
        Option.some.injEq] at hu
      obtain ⟨_, _, hr⟩ := hu
      have ht : t = rest := by
        rw [Except.ok.injEq, ← hr, Prod.mk.injEq] at h
        exact h.2
      have ha := a.utf8Size_pos
      have hb := b.utf8Size_pos
      have hc := c.utf8Size_pos
      have hd := d.utf8Size_pos
      simp only [← ht, size_cons]
      omega
    · simp at hu
  · split at h <;> simp [stop] at h

theorem readUnicode_size {s rest : List Char} {c : Char} (h : readUnicode s = .ok (c, rest)) :
    c.utf8Size + size rest ≤ size s := by
  have hc := c.utf8Size_le_four
  unfold readUnicode at h
  obtain ⟨⟨high, t⟩, hu, h⟩ := bind_eq_ok.1 h
  have ht := readUnit_size hu
  simp only at h
  split at h
  · simp [stop] at h
  · split at h
    · simp only [pure_eq, Except.ok.injEq, Prod.mk.injEq] at h
      rw [← h.2]
      omega
    · split at h
      · simp [stop] at h
      · simp [stop] at h
      · rename_i r
        obtain ⟨⟨low, v⟩, hv, h⟩ := bind_eq_ok.1 h
        have hr := readUnit_size hv
        simp only at h
        split at h
        · simp only [pure_eq, Except.ok.injEq, Prod.mk.injEq] at h
          simp only [size_cons] at ht
          rw [← h.2]
          omega
        · simp [stop] at h
      · simp [stopAt] at h
      · simp [stopAt] at h

theorem readEscape_size {s rest : List Char} {c : Char} (h : readEscape s = .ok (c, rest)) :
    c.utf8Size + size rest ≤ size s := by
  unfold readEscape at h
  split at h
  case h_1 => simp [stop] at h
  case h_10 =>
    have := readUnicode_size h
    simp only [size_cons]
    omega
  case h_11 => simp [stopAt] at h
  all_goals
    simp only [Except.ok.injEq, Prod.mk.injEq] at h
    obtain ⟨rfl, rfl⟩ := h
    exact add_size_le_size_cons (by decide) _

/-- The text of a string takes fewer bytes than what it is written as, the closing quote
included. -/
theorem readString_size {s text rest : List Char} (h : readString s = .ok (text, rest)) :
    size text + size rest < size s := by
  fun_induction readString s generalizing text with
  | case1 => simp [stop] at h
  | case2 s =>
      simp only [Except.ok.injEq, Prod.mk.injEq] at h
      rw [← h.1, ← h.2, size_cons]
      have := Char.utf8Size_pos '"'
      simp only [size_nil]
      omega
  | case3 => simp at h
  | case4 s c t he ih =>
      obtain ⟨⟨u, v⟩, hu, h⟩ := bind_eq_ok.1 h
      simp only [pure_eq, Except.ok.injEq, Prod.mk.injEq] at h
      have hs := ih (h.2 ▸ hu)
      have hc := readEscape_size he
      rw [← h.1]
      simp only [size_cons]
      omega
  | case5 => simp [stopAt] at h
  | case6 c s hq hb hc ih =>
      obtain ⟨⟨u, v⟩, hu, h⟩ := bind_eq_ok.1 h
      simp only [pure_eq, Except.ok.injEq, Prod.mk.injEq] at h
      have hs := ih (h.2 ▸ hu)
      rw [← h.1]
      simp only [size_cons]
      omega

theorem readQuoted_size {content : List Char} {text : String}
    (h : readQuoted content = .ok text) : size text.toList ≤ size content := by
  obtain ⟨⟨u, v⟩, hu, h⟩ := bind_eq_ok.1 (mapError_eq_ok.1 h)
  have hs := readString_size hu
  have ht : text = String.ofList u := by
    change readEnd (String.ofList u) v = .ok text at h
    unfold readEnd at h
    split at h
    · exact (Except.ok.inj h).symm
    · simp [stopAt] at h
  rw [ht, String.toList_ofList]
  simp only [size_append, size_cons, size_nil, show Char.utf8Size '"' = 1 by decide] at hs
  omega

end ResourceQuery.Json
