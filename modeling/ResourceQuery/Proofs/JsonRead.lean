import ResourceQuery.Proofs.JsonText

namespace ResourceQuery.Json

open Outcome

def GivesNumber (r : Except Stop (Json × List Char)) : Prop :=
  ∀ j rest, r = .ok (j, rest) → ∃ n, j = .number n ∧ n.InRange

theorem givesNumber_error (e : Stop) : GivesNumber (.error e) := by
  intro j rest h
  simp at h

theorem givesNumber_ok {n : Number} (h : n.InRange) (rest : List Char) :
    GivesNumber (.ok (.number n, rest)) := by
  rintro j r ⟨⟩
  exact ⟨n, rfl, h⟩

theorem givesNumber_double (negative : Bool) (s : Scan) (rest : List Char) :
    GivesNumber (double negative s rest) := by
  unfold double
  split
  · rename_i x _
    exact @givesNumber_ok (.double x) trivial _
  · exact givesNumber_error _

theorem givesNumber_readExponent (negative : Bool) (s : Scan) (text : List Char) :
    GivesNumber (readExponent negative s text) := by
  unfold readExponent
  split
  split
  · exact givesNumber_error _
  · split
    · exact givesNumber_error _
    · split
      split
      · exact givesNumber_double _ _ _
      · split
        · exact @givesNumber_ok (.double _) trivial _
        · exact givesNumber_error _

theorem givesNumber_integral {negative : Bool} {s : Scan} (hs : s.significand < 0x10000000000000000)
    (rest : List Char) : GivesNumber (readTail.integral negative s rest) := by
  unfold readTail.integral
  split
  · refine givesNumber_ok ?_ _
    simp only [Number.InRange]
    omega
  · split
    · refine givesNumber_ok ?_ _
      simp only [Number.InRange]
      omega
    · exact givesNumber_double _ _ _

theorem givesNumber_readTail {negative : Bool} {s : Scan} (hs : s.significand < 0x10000000000000000)
    (text : List Char) : GivesNumber (readTail negative s text) := by
  unfold readTail
  split
  · simp only
    split
    · exact givesNumber_error _
    · split
      · split
        · exact givesNumber_readExponent _ _ _
        · exact givesNumber_double _ _ _
      · exact givesNumber_double _ _ _
  · split
    · exact givesNumber_readExponent _ _ _
    · exact givesNumber_integral hs _
  · exact givesNumber_integral hs _

theorem significand_whole_lt (digits : List Char) :
    (Scan.whole digits).significand < 0x10000000000000000 := by
  have main (s : Scan) (hs : s.significand < 0x10000000000000000) :
      (digits.foldl (fun s c =>
        if s.exponent = 0 ∧ s.fits c then (⟨s.push c, 0⟩ : Scan)
        else ⟨s.significand, s.exponent + 1⟩) s).significand < 0x10000000000000000 := by
    induction digits generalizing s with
    | nil => exact hs
    | cons c digits ih =>
        rw [List.foldl_cons]
        apply ih
        split
        · rename_i h
          exact of_decide_eq_true h.2
        · exact hs
  exact main ⟨0, 0⟩ (by decide)

theorem givesNumber_readNumber (negative : Bool) (s : List Char) :
    GivesNumber (readNumber negative s) := by
  unfold readNumber
  split
  · exact givesNumber_error _
  · split
    · exact givesNumber_error _
    · exact givesNumber_readTail (by decide) _
  · split
    · exact givesNumber_error _
    · exact givesNumber_readTail (significand_whole_lt _) _

/-- A value that its text can stand for, if it is not too deep. -/
structure IsFormed (j : Json) : Prop where
  sorted : j.IsSorted
  numbers : ∀ n ∈ j.numbers, n.InRange

theorem isFormed_plain {j : Json} (hs : j.IsSorted) (hn : j.numbers = []) : j.IsFormed :=
  ⟨hs, by simp [hn]⟩

theorem isFormed_array {items : List Json} (h : ∀ x ∈ items, x.IsFormed) :
    (array items).IsFormed where
  sorted := itemsSorted_iff.2 fun x hx => (h x hx).sorted
  numbers n hn := by
    obtain ⟨x, hx, hn⟩ := mem_itemsNumbers.1 hn
    exact (h x hx).numbers n hn

theorem isFormed_object {members : List (String × Json)}
    (hs : (members.map (·.1)).Pairwise (· < ·)) (h : ∀ m ∈ members, m.2.IsFormed) :
    (object members).IsFormed where
  sorted := ⟨hs, membersSorted_iff.2 fun m hm => (h m hm).sorted⟩
  numbers n hn := by
    obtain ⟨m, hm, hn⟩ := mem_membersNumbers.1 hn
    exact (h m hm).numbers n hn

/-- What a value consists of that is read with room for `room` lists and objects. -/
structure IsRead (room : Nat) (j : Json) : Prop where
  sorted : j.IsSorted
  depth : j.depth ≤ room
  numbers : ∀ n ∈ j.numbers, n.InRange

section

variable {room : Nat}

theorem IsRead.isFormed {j : Json} (h : IsRead room j) : j.IsFormed := ⟨h.sorted, h.numbers⟩

theorem IsRead.array {items : List Json} (h : ∀ x ∈ items, IsRead room x) :
    IsRead (room + 1) (.array items) :=
  have hf := isFormed_array fun x hx => (h x hx).isFormed
  ⟨hf.sorted, Nat.succ_le_succ (itemsDepth_le_iff.2 fun x hx => (h x hx).depth), hf.numbers⟩

theorem IsRead.object {members : List (String × Json)}
    (hs : (members.map (·.1)).Pairwise (· < ·)) (h : ∀ m ∈ members, IsRead room m.2) :
    IsRead (room + 1) (.object members) :=
  have hf := isFormed_object hs fun m hm => (h m hm).isFormed
  ⟨hf.sorted, Nat.succ_le_succ (membersDepth_le_iff.2 fun m hm => (h m hm).depth), hf.numbers⟩

theorem mem_insert {key : String} {value : Json} {members : List (String × Json)}
    {m : String × Json} (h : m ∈ insert key value members) : m = (key, value) ∨ m ∈ members := by
  induction members with
  | nil => exact .inl (List.mem_singleton.1 h)
  | cons n ns ih =>
      obtain ⟨k, v⟩ := n
      rw [insert] at h
      split at h
      · rcases List.mem_cons.1 h with h | h
        · exact .inl h
        · exact .inr (List.mem_cons_of_mem _ h)
      · split at h
        · rcases List.mem_cons.1 h with h | h
          · exact .inl h
          · exact .inr h
        · rcases List.mem_cons.1 h with h | h
          · exact .inr (h ▸ List.mem_cons_self)
          · exact (ih h).imp id (List.mem_cons_of_mem _)

theorem pairwise_insert {key : String} {value : Json} {members : List (String × Json)}
    (h : (members.map (·.1)).Pairwise (· < ·)) :
    ((insert key value members).map (·.1)).Pairwise (· < ·) := by
  induction members with
  | nil => simp [insert]
  | cons n ns ih =>
      obtain ⟨k, v⟩ := n
      rw [List.map_cons, List.pairwise_cons] at h
      rw [insert]
      split
      · rename_i hk
        subst hk
        exact List.pairwise_cons.2 h
      · split
        · rename_i hk
          refine List.pairwise_cons.2 ⟨fun l hl => ?_, List.pairwise_cons.2 h⟩
          rcases List.mem_cons.1 hl with rfl | hl
          · exact hk
          · exact lt_trans hk (h.1 l hl)
        · rename_i hne hk
          refine List.pairwise_cons.2 ⟨fun l hl => ?_, ih h.2⟩
          obtain ⟨m, hm, rfl⟩ := List.mem_map.1 hl
          rcases mem_insert hm with rfl | hm
          · exact lt_of_le_of_ne (not_lt.1 hk) (Ne.symm hne)
          · exact h.1 m.1 (List.mem_map_of_mem hm)

theorem isRead_foldl_insert {members acc : List (String × Json)}
    (h : ∀ m ∈ members, IsRead room m.2) (hs : (acc.map (·.1)).Pairwise (· < ·))
    (ha : ∀ m ∈ acc, IsRead room m.2) :
    IsRead (room + 1) (.object (members.foldl (fun sorted (k, v) => insert k v sorted) acc)) := by
  induction members generalizing acc with
  | nil => exact .object hs ha
  | cons m ms ih =>
      simp only [List.mem_cons, forall_eq_or_imp] at h
      rw [List.foldl_cons]
      refine ih h.2 (pairwise_insert hs) fun n hn => ?_
      rcases mem_insert hn with rfl | hn
      · exact h.1
      · exact ha n hn

theorem isRead_ofMembers {members : List (String × Json)} (h : ∀ m ∈ members, IsRead room m.2) :
    IsRead (room + 1) (ofMembers members) :=
  isRead_foldl_insert h List.Pairwise.nil (by simp)

variable {value : List Char → Except Stop (Json × List Char)} {P : Json → Prop}

theorem forall_readItems (hv : ∀ s j rest, value s = .ok (j, rest) → P j) {fuel : Nat}
    {first : Bool} {s rest : List Char} {items : List Json}
    (h : readItems value fuel first s = .ok (items, rest)) : ∀ x ∈ items, P x := by
  induction fuel generalizing first s rest items with
  | zero => simp [readItems, stop] at h
  | succ fuel ih =>
      rw [readItems] at h
      obtain ⟨next, -, h⟩ := bind_eq_ok.1 h
      cases next with
      | inr t =>
          simp only [pure_eq, Except.ok.injEq, Prod.mk.injEq] at h
          simp [← h.1]
      | inl t =>
          obtain ⟨⟨x, u⟩, hx, h⟩ := bind_eq_ok.1 h
          obtain ⟨⟨xs, w⟩, hxs, h⟩ := bind_eq_ok.1 h
          simp only [pure_eq, Except.ok.injEq, Prod.mk.injEq] at h
          rw [← h.1]
          simpa using ⟨hv t x u hx, ih hxs⟩

theorem forall_readMembers (hv : ∀ s j rest, value s = .ok (j, rest) → P j) {fuel : Nat}
    {first : Bool} {s rest : List Char} {members : List (String × Json)}
    (h : readMembers value fuel first s = .ok (members, rest)) : ∀ m ∈ members, P m.2 := by
  induction fuel generalizing first s rest members with
  | zero => simp [readMembers, stop] at h
  | succ fuel ih =>
      rw [readMembers] at h
      obtain ⟨next, -, h⟩ := bind_eq_ok.1 h
      cases next with
      | inr t =>
          simp only [pure_eq, Except.ok.injEq, Prod.mk.injEq] at h
          simp [← h.1]
      | inl t =>
          obtain ⟨⟨key, u⟩, -, h⟩ := bind_eq_ok.1 h
          obtain ⟨w, -, h⟩ := bind_eq_ok.1 h
          obtain ⟨⟨x, y⟩, hx, h⟩ := bind_eq_ok.1 h
          obtain ⟨⟨ms, z⟩, hms, h⟩ := bind_eq_ok.1 h
          simp only [pure_eq, Except.ok.injEq, Prod.mk.injEq] at h
          rw [← h.1]
          intro m hm
          rcases List.mem_cons.1 hm with rfl | hm
          · exact hv w x y hx
          · exact ih hms m hm

end

theorem isRead_readWord {room : Nat} {v j : Json} (hv : IsRead room v) {word s rest : List Char}
    (h : readWord v word s = .ok (j, rest)) : IsRead room j := by
  induction word generalizing s with
  | nil =>
      simp only [readWord, Except.ok.injEq, Prod.mk.injEq] at h
      exact h.1 ▸ hv
  | cons e es ih =>
      cases s with
      | nil => simp [readWord, stop] at h
      | cons c s =>
          rw [readWord] at h
          split at h
          · exact ih h
          · simp [stopAt] at h

theorem isRead_number {room : Nat} {r : Except Stop (Json × List Char)} (hr : GivesNumber r)
    {j : Json} {rest : List Char} (h : r = .ok (j, rest)) : IsRead room j := by
  obtain ⟨n, rfl, hn⟩ := hr j rest h
  exact ⟨trivial, Nat.zero_le _, by simpa [numbers] using hn⟩

theorem isRead_plain {j : Json} (hs : j.IsSorted) (hd : j.depth = 0) (hn : j.numbers = [])
    (room : Nat) : IsRead room j := ⟨hs, hd ▸ Nat.zero_le _, by simp [hn]⟩

theorem isRead_step {room : Nat} (hroom : ∀ r, room = r + 1 → ∀ s j rest,
      readValue r s = .ok (j, rest) → IsRead r j)
    {s rest : List Char} {j : Json} (h : readValue room s = .ok (j, rest)) : IsRead room j := by
  rw [readValue.eq_def] at h
  split at h
  case h_1 => simp [stop] at h
  case h_2 => exact isRead_readWord (isRead_plain (j := .null) trivial rfl rfl room) h
  case h_3 => exact isRead_readWord (isRead_plain (j := .bool true) trivial rfl rfl room) h
  case h_4 => exact isRead_readWord (isRead_plain (j := .bool false) trivial rfl rfl room) h
  case h_5 => exact isRead_number (givesNumber_readNumber _ _) h
  case h_6 =>
    obtain ⟨⟨t, u⟩, -, h⟩ := bind_eq_ok.1 h
    simp only [pure_eq, Except.ok.injEq, Prod.mk.injEq] at h
    rw [← h.1]
    exact isRead_plain (j := .string _) trivial rfl rfl room
  case h_7 =>
    cases room with
    | zero => simp [stopAt] at h
    | succ room =>
        obtain ⟨⟨items, u⟩, hi, h⟩ := bind_eq_ok.1 h
        simp only [pure_eq, Except.ok.injEq, Prod.mk.injEq] at h
        rw [← h.1]
        exact .array (forall_readItems (hroom room rfl) hi)
  case h_8 =>
    cases room with
    | zero => simp [stopAt] at h
    | succ room =>
        obtain ⟨⟨members, u⟩, hm, h⟩ := bind_eq_ok.1 h
        simp only [pure_eq, Except.ok.injEq, Prod.mk.injEq] at h
        rw [← h.1]
        exact isRead_ofMembers (forall_readMembers (hroom room rfl) hm)
  case h_9 =>
    split at h
    · exact isRead_number (givesNumber_readNumber _ _) h
    · simp [stopAt] at h

/-- Every value that is read is in order, no deeper than the limit and has numbers in range. -/
theorem isRead_readValue {room : Nat} {s rest : List Char} {j : Json}
    (h : readValue room s = .ok (j, rest)) : IsRead room j := by
  induction room generalizing s rest j with
  | zero => exact isRead_step (fun r hr => by simp at hr) h
  | succ room ih =>
      refine isRead_step (fun r hr s j rest h => ?_) h
      obtain rfl : room = r := Nat.succ.inj hr
      exact ih h

theorem isRead_read {text : List Char} {j : Json} (h : read text = .ok j) : IsRead maxDepth j := by
  obtain ⟨⟨v, rest⟩, hv, he⟩ := bind_eq_ok.1 (mapError_eq_ok.1 h)
  simp only [readEnd] at he
  split at he
  · rw [Except.ok.injEq] at he
    exact he ▸ isRead_readValue hv
  · simp [stopAt] at he

end ResourceQuery.Json
