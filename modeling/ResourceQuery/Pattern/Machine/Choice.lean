import ResourceQuery.Pattern.Machine.Basic

namespace ResourceQuery.Pattern.Choice

def chunks : List (List UInt8) → List (List (List UInt8))
  | [] => [[]]
  | [] :: texts => [] :: chunks texts
  | text :: texts =>
      match chunks texts with
      | chunk :: rest => (text :: chunk) :: rest
      | [] => [[text]]

def mergeEnds : List (List UInt8) → List (List UInt8)
  | [] :: [] :: texts => mergeEnds ([] :: texts)
  | texts => texts

def after (b : UInt8) (texts : List (List UInt8)) : List (List UInt8) :=
  texts.filterMap fun text =>
    match text with
    | c :: rest => if c = b then some rest else none
    | [] => none

def branches (texts : List (List UInt8)) : List (List (List UInt8)) :=
  (texts.filterMap (·.head?)).eraseDups.map fun b => after b texts

def fork (branches : Nat) : Machine :=
  match branches with
  | 0 => .empty
  | 1 => ⟨1, 0⟩
  | n => ⟨1, n * Machine.arrowBytes⟩

def room : Nat → List (List UInt8) → Machine
  | 0, _ => .empty
  | length + 1, texts =>
      if texts.all List.isEmpty then .empty
      else
        let parts := (chunks (mergeEnds texts)).map branches
        let forks := parts.map fun part => fork part.length
        let links := (parts.filter (!·.isEmpty)).length + (parts.length - 1)
        let rests := parts.flatten.map (room length)
        (forks ++ rests).foldl .plus ⟨1, links * Machine.linkBytes⟩

end ResourceQuery.Pattern.Choice
