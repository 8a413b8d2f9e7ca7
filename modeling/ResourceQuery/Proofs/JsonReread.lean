import ResourceQuery.Proofs.JsonText

namespace ResourceQuery.Json

open Outcome

def Number.reread (n : Number) : Except Cause Number :=
  match readValue 0 (writeNumber n) with
  | .ok (.number m, _) => .ok m
  | _ => .error .numberOutOfRange

def Number.Rereads (n : Number) : Prop :=
  ∀ room, GivesFor (readValue room) (n.reread.map number) (.number n)

theorem Number.ReadsBack.reread {n : Number} (h : n.ReadsBack) : n.reread = .ok n := by
  have hr := h 0 [] (by simp [Ends])
  rw [List.append_nil] at hr
  rw [Number.reread, hr]

theorem Number.ReadsBack.rereads {n : Number} (h : n.ReadsBack) : n.Rereads := by
  intro room rest hr
  rw [write, h room rest hr, h.reread]
  rfl

theorem Number.Rereads.readsBack {n : Number} (h : n.Rereads) (hn : n.reread = .ok n) :
    n.ReadsBack := by
  intro room rest hr
  have hg := h room rest hr
  rw [hn] at hg
  exact mapError_eq_ok.1 hg

/-- What is read where a value has been written, with room for so many lists and objects around
one another. -/
def reread : Nat → Json → Except Cause Json
  | _, number n => n.reread.map number
  | 0, array _ | 0, object _ => .error .tooDeep
  | room + 1, array items => (items.mapM (reread room)).map array
  | room + 1, object members => (members.mapM (inMember (reread room))).map object
  | _, j => .ok j

theorem map_fst_of_mapM_inMember {f : Json → Except Cause Json} {ms ns : List (String × Json)}
    (h : ms.mapM (inMember f) = .ok ns) : ns.map (·.1) = ms.map (·.1) := by
  have hf := mapM_eq_ok.1 h
  clear h
  induction hf with
  | nil => rfl
  | cons hm _ ih =>
      obtain ⟨y, -, rfl⟩ := map_eq_ok.1 hm
      rw [List.map_cons, List.map_cons, ih]

theorem givesFor_array {room : Nat} {items : List Json}
    (hv : ∀ x ∈ items, GivesFor (readValue room) (reread room x) x) :
    GivesFor (readValue (room + 1)) (reread (room + 1) (.array items)) (.array items) := by
  intro rest _
  have hlen := length_le_writeItems items
  have hf : items.length < (writeItems items ++ ']' :: rest).length + 1 := by
    simp only [List.length_append]
    omega
  rw [write, List.cons_append, List.cons_append, List.append_assoc, List.singleton_append,
    readValue_array, readItems_write hv hf rest, reread]
  cases items.mapM (reread room) <;> rfl

theorem givesFor_object {room : Nat} {members : List (String × Json)}
    (hs : (members.map (·.1)).Pairwise (· < ·))
    (hv : ∀ m ∈ members, GivesFor (readValue room) (reread room m.2) m.2) :
    GivesFor (readValue (room + 1)) (reread (room + 1) (.object members)) (.object members) := by
  intro rest _
  have hlen := length_le_writeMembers members
  have hf : members.length < (writeMembers members ++ '\x7d' :: rest).length + 1 := by
    simp only [List.length_append]
    omega
  rw [write, List.cons_append, List.cons_append, List.append_assoc, List.singleton_append,
    readValue_object, readMembers_write hv hf rest, reread]
  cases hm : members.mapM (inMember (reread room)) with
  | error e => rfl
  | ok ms =>
      have ho : ofMembers ms = .object ms := ofMembers_eq (map_fst_of_mapM_inMember hm ▸ hs)
      simp [Except.map, ho]

/-- Reading goes through the text of a value as the value is made, so that only its depth and
its numbers decide what comes of it. -/
theorem givesFor_reread {j : Json} (hs : j.IsSorted) (hn : ∀ n ∈ j.numbers, n.Rereads)
    (room : Nat) : GivesFor (readValue room) (reread room j) j := by
  match j, room with
  | .null, _ | .bool true, _ | .bool false, _ =>
      intro rest hr
      rw [readValue.eq_def, reread.eq_def]
      rfl
  | .number n, room =>
      intro rest hr
      rw [reread.eq_def]
      exact hn n (by simp [numbers]) room rest hr
  | .string s, room =>
      intro rest hr
      have hread := readValue_string room s.toList rest
      rw [write, writeString, List.cons_append, List.cons_append, List.append_assoc,
        List.singleton_append, hread, String.ofList_toList, reread.eq_def]
      rfl
  | .array _, 0 | .object _, 0 =>
      intro rest hr
      rw [write, List.cons_append, List.cons_append, List.append_assoc, List.singleton_append]
      rfl
  | .array items, room + 1 =>
      exact givesFor_array fun x hx => givesFor_reread (itemsSorted_iff.1 hs x hx)
        (fun n hm => hn n (mem_itemsNumbers.2 ⟨x, hx, hm⟩)) room
  | .object members, room + 1 =>
      exact givesFor_object hs.1 fun m hm => givesFor_reread (membersSorted_iff.1 hs.2 m hm)
        (fun n hn' => hn n (mem_membersNumbers.2 ⟨m, hm, hn'⟩)) room

theorem reread_number_eq {n : Number} {room : Nat} :
    reread room (.number n) = .ok (.number n) ↔ n.reread = .ok n := by
  rw [reread.eq_def, map_eq_ok]
  simp

/-- A value is read back if it is not too deep and its numbers are read back, and only then. -/
theorem reread_eq_self_iff {room : Nat} {j : Json} :
    reread room j = .ok j ↔ j.depth ≤ room ∧ ∀ n ∈ j.numbers, n.reread = .ok n := by
  induction room generalizing j with
  | zero =>
      cases j with
      | number n => simp [reread_number_eq, depth, numbers]
      | null | bool _ | string _ | array _ | object _ => simp [reread, depth, numbers]
  | succ room ih =>
      cases j with
      | number n => simp [reread_number_eq, depth, numbers]
      | null | bool _ | string _ => simp [reread, depth, numbers]
      | array items =>
          have hm : reread (room + 1) (.array items) = .ok (.array items) ↔
              ∀ x ∈ items, reread room x = .ok x := by
            rw [reread, map_eq_ok, ← mapM_eq_self]
            simp
          rw [hm, depth, numbers, Nat.add_le_add_iff_right, itemsDepth_le_iff]
          simp only [ih, mem_itemsNumbers]
          constructor
          · refine fun h => ⟨fun x hx => (h x hx).1, ?_⟩
            rintro n ⟨x, hx, hn⟩
            exact (h x hx).2 n hn
          · exact fun h x hx => ⟨h.1 x hx, fun n hn => h.2 n ⟨x, hx, hn⟩⟩
      | object members =>
          have hone (m : String × Json) :
              inMember (reread room) m = .ok m ↔ reread room m.2 = .ok m.2 := by
            rw [inMember, map_eq_ok]
            simp [Prod.ext_iff]
          have hm : reread (room + 1) (.object members) = .ok (.object members) ↔
              ∀ m ∈ members, inMember (reread room) m = .ok m := by
            rw [reread, map_eq_ok, ← mapM_eq_self]
            simp
          rw [hm, depth, numbers, Nat.add_le_add_iff_right, membersDepth_le_iff]
          simp only [hone, ih, mem_membersNumbers]
          constructor
          · refine fun h => ⟨fun m hm => (h m hm).1, ?_⟩
            rintro n ⟨m, hm, hn⟩
            exact (h m hm).2 n hn
          · exact fun h m hm => ⟨h.1 m hm, fun n hn => h.2 n ⟨m, hm, hn⟩⟩

theorem depth_le_of_reread {room : Nat} {j k : Json} (h : reread room j = .ok k) :
    j.depth ≤ room := by
  induction room generalizing j k with
  | zero => cases j <;> simp_all [reread, depth]
  | succ room ih =>
      cases j with
      | null | bool _ | number _ | string _ => exact Nat.zero_le _
      | array items =>
          obtain ⟨ks, hk, -⟩ := map_eq_ok.1 h
          rw [depth, Nat.add_le_add_iff_right, itemsDepth_le_iff]
          intro x hx
          obtain ⟨y, hy⟩ := exists_of_mapM_ok hk x hx
          exact ih hy
      | object members =>
          obtain ⟨ks, hk, -⟩ := map_eq_ok.1 h
          rw [depth, Nat.add_le_add_iff_right, membersDepth_le_iff]
          intro m hm
          obtain ⟨n, hn⟩ := exists_of_mapM_ok hk m hm
          obtain ⟨y, hy, -⟩ := map_eq_ok.1 hn
          exact ih hy

theorem Number.reread_error {n : Number} {c : Cause} (h : n.reread = .error c) :
    c = .numberOutOfRange := by
  unfold Number.reread at h
  split at h
  · simp at h
  · exact (Except.error.inj h).symm

/-- Nothing else is wrong with a written value than that it is too deep or that a number is out of
range. -/
theorem reread_error {room : Nat} {j : Json} {c : Cause} (h : reread room j = .error c) :
    c = .tooDeep ∨ c = .numberOutOfRange := by
  have number {room : Nat} {n : Number} (h : reread room (.number n) = .error c) :
      c = .numberOutOfRange := by
    rw [reread.eq_def, map_eq_error] at h
    exact Number.reread_error h
  induction room generalizing j with
  | zero =>
      cases j with
      | number n => exact .inr (number h)
      | array _ | object _ => exact .inl (Except.error.inj h).symm
      | null | bool _ | string _ => simp [reread] at h
  | succ room ih =>
      cases j with
      | number n => exact .inr (number h)
      | null | bool _ | string _ => simp [reread] at h
      | array items =>
          obtain ⟨x, -, hx⟩ := exists_of_mapM_error (map_eq_error.1 h)
          exact ih hx
      | object members =>
          obtain ⟨m, -, hm⟩ := exists_of_mapM_error (map_eq_error.1 h)
          exact ih (map_eq_error.1 hm)

theorem mapError_read_write {j : Json} (hs : j.IsSorted) (hn : ∀ n ∈ j.numbers, n.Rereads) :
    (read j.write).mapError Fault.cause = reread maxDepth j := by
  have h := givesFor_reread hs hn maxDepth [] (by simp [Ends])
  rw [List.append_nil] at h
  rw [read]
  cases hv : readValue maxDepth j.write with
  | error e =>
      rw [hv] at h
      cases hr : reread maxDepth j with
      | ok k => simp [hr, Except.map, Except.mapError] at h
      | error c =>
          rw [hr] at h
          exact congrArg Except.error (Except.error.inj h)
  | ok r =>
      rw [hv] at h
      obtain ⟨k, hk, rfl⟩ := map_eq_ok.1 h.symm
      rw [hk]
      rfl

theorem read_write {j : Json} (hs : j.IsSorted) (hn : ∀ n ∈ j.numbers, n.ReadsBack)
    (hd : j.depth ≤ maxDepth) : read j.write = .ok j := by
  have h := mapError_read_write hs fun n hm => (hn n hm).rereads
  rw [reread_eq_self_iff.2 ⟨hd, fun n hm => (hn n hm).reread⟩] at h
  exact mapError_eq_ok.1 h

end ResourceQuery.Json
