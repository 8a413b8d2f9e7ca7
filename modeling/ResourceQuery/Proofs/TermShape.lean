import ResourceQuery.Term

namespace ResourceQuery

/-- A name that shows a text to be that of a call. -/
def IsName (name : String) : Prop := name.toList ≠ [] ∧ ∀ c ∈ name.toList, Text.isWord c

instance (name : String) : Decidable (IsName name) := by
  unfold IsName
  infer_instance

namespace Term

mutual

def names : Term → List String
  | call name args => name :: namesAll args
  | leaf _ => []
  | list items => namesAll items

def namesAll : List Term → List String
  | [] => []
  | x :: xs => names x ++ namesAll xs

end

mutual

def leaves : Term → List Value
  | call _ args => leavesAll args
  | leaf v => [v]
  | list items => leavesAll items

def leavesAll : List Term → List Value
  | [] => []
  | x :: xs => leaves x ++ leavesAll xs

end

mutual

def height : Term → Nat
  | call _ args => heightAll args + 1
  | leaf _ => 0
  | list items => heightAll items + 1

def heightAll : List Term → Nat
  | [] => 0
  | x :: xs => max (height x) (heightAll xs)

end

mutual

/-- How many levels a term takes as an argument: two for a call, and one for a list with calls in
it. -/
def levels : Term → Nat
  | call _ args => levelsAll args + 2
  | leaf _ => 0
  | list items => if levelsAll items = 0 then 0 else levelsAll items + 1

def levelsAll : List Term → Nat
  | [] => 0
  | x :: xs => max (levels x) (levelsAll xs)

end

mutual

def listDepth : Term → Nat
  | call _ _ => 0
  | leaf _ => 0
  | list items => listDepthAll items + 1

def listDepthAll : List Term → Nat
  | [] => 0
  | x :: xs => max (listDepth x) (listDepthAll xs)

end

mutual

/-- In no call of a term there are more than `limit` lists directly around one another. -/
def ListsWithin (limit : Nat) : Term → Prop
  | call _ args => listDepthAll args ≤ limit ∧ AllListsWithin limit args
  | leaf _ => True
  | list items => AllListsWithin limit items

def AllListsWithin (limit : Nat) : List Term → Prop
  | [] => True
  | x :: xs => ListsWithin limit x ∧ AllListsWithin limit xs

end

mutual

def mapLeaves (f : Value → Value) : Term → Term
  | call name args => call name (mapAllLeaves f args)
  | leaf v => leaf (f v)
  | list items => list (mapAllLeaves f items)

def mapAllLeaves (f : Value → Value) : List Term → List Term
  | [] => []
  | x :: xs => mapLeaves f x :: mapAllLeaves f xs

end

mutual

theorem mapLeaves_eq_self {f : Value → Value} (x : Term) (h : ∀ v ∈ x.leaves, f v = v) :
    x.mapLeaves f = x := by
  match x with
  | call name args => rw [mapLeaves, mapAllLeaves_eq_self args h]
  | leaf v => rw [mapLeaves, h v (by simp [leaves])]
  | list items => rw [mapLeaves, mapAllLeaves_eq_self items h]

theorem mapAllLeaves_eq_self {f : Value → Value} (xs : List Term)
    (h : ∀ v ∈ leavesAll xs, f v = v) : mapAllLeaves f xs = xs := by
  match xs with
  | [] => rfl
  | x :: xs =>
      simp only [leavesAll, List.mem_append, or_imp, forall_and] at h
      rw [mapAllLeaves, mapLeaves_eq_self x h.1, mapAllLeaves_eq_self xs h.2]

end

mutual

theorem mapLeaves_same {f : Value → Value} (x : Term) (h : ∀ v ∈ x.leaves, (f v).same v) :
    (x.mapLeaves f).same x := by
  match x with
  | call name args => simpa [mapLeaves, same] using mapAllLeaves_same args h
  | leaf v => simpa [mapLeaves, same, leaves] using h
  | list items => simpa [mapLeaves, same] using mapAllLeaves_same items h

theorem mapAllLeaves_same {f : Value → Value} (xs : List Term)
    (h : ∀ v ∈ leavesAll xs, (f v).same v) : sameAll (mapAllLeaves f xs) xs := by
  match xs with
  | [] => rfl
  | x :: xs =>
      simp only [leavesAll, List.mem_append, or_imp, forall_and] at h
      simp [mapAllLeaves, sameAll, mapLeaves_same x h.1, mapAllLeaves_same xs h.2]

end

mutual

theorem levels_le_height (x : Term) : x.levels ≤ 2 * x.height := by
  match x with
  | call _ args =>
      have := levelsAll_le_heightAll args
      simp only [levels, height]
      omega
  | leaf _ => simp [levels]
  | list items =>
      have := levelsAll_le_heightAll items
      simp only [levels, height]
      split <;> omega

theorem levelsAll_le_heightAll (xs : List Term) : levelsAll xs ≤ 2 * heightAll xs := by
  match xs with
  | [] => simp [levelsAll]
  | x :: xs =>
      have := levels_le_height x
      have := levelsAll_le_heightAll xs
      simp only [levelsAll, heightAll]
      omega

end

mutual

theorem listDepth_le_height (x : Term) : x.listDepth ≤ x.height := by
  match x with
  | call _ _ | leaf _ => simp [listDepth]
  | list items =>
      have := listDepthAll_le_heightAll items
      simp only [listDepth, height]
      omega

theorem listDepthAll_le_heightAll (xs : List Term) : listDepthAll xs ≤ heightAll xs := by
  match xs with
  | [] => simp [listDepthAll]
  | x :: xs =>
      have := listDepth_le_height x
      have := listDepthAll_le_heightAll xs
      simp only [listDepthAll, heightAll]
      omega

end

mutual

theorem listsWithin_of_height {limit : Nat} (x : Term) (h : x.height ≤ limit) :
    x.ListsWithin limit := by
  match x with
  | call _ args =>
      have := listDepthAll_le_heightAll args
      simp only [height] at h
      exact ⟨by omega, allListsWithin_of_heightAll args (by omega)⟩
  | leaf _ => trivial
  | list items =>
      simp only [height] at h
      exact allListsWithin_of_heightAll items (by omega)

theorem allListsWithin_of_heightAll {limit : Nat} (xs : List Term) (h : heightAll xs ≤ limit) :
    AllListsWithin limit xs := by
  match xs with
  | [] => trivial
  | x :: xs =>
      simp only [heightAll] at h
      exact ⟨listsWithin_of_height x (by omega), allListsWithin_of_heightAll xs (by omega)⟩

end

end Term

end ResourceQuery
