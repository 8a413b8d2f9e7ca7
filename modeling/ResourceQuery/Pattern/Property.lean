import ResourceQuery.Pattern.CharSet
import ResourceQuery.Unicode.Age
import ResourceQuery.Unicode.Break.Grapheme
import ResourceQuery.Unicode.Break.Sentence
import ResourceQuery.Unicode.Break.Word
import ResourceQuery.Unicode.Property
import ResourceQuery.Unicode.Script

namespace ResourceQuery.Pattern.Property

open Unicode

def isSeparator (c : Char) : Bool := c == ' ' || c == '_' || c == '-'

def plain (s : List Char) : List Char :=
  (s.filter fun c => c.toNat < 0x80 && !isSeparator c).map Char.toLower

/-- The form of a name in which names are compared. An `is` in front does not count, unless the name
is the short one of a property of comments. -/
def normalize (s : List Char) : String :=
  match s with
  | i :: t :: rest =>
      if (i == 'i' || i == 'I') && (t == 's' || t == 'S') then
        let name := plain rest
        if name = ['c'] then "isc" else String.ofList name
      else String.ofList (plain s)
  | _ => String.ofList (plain s)

def script? (name : String) : Option Unicode.Class := (Script.named? name).map (·.chars)

def named? (name : String) : Option Unicode.Class :=
  (Unicode.Class.named? properties name).or
    ((Unicode.Class.named? categories name).or (script? name))

def valued? (name value : String) : Option Unicode.Class :=
  match name with
  | "gc" | "generalcategory" => Unicode.Class.named? categories value
  | "sc" | "script" => script? value
  | "scx" | "scriptextensions" => (Script.named? value).map (·.extended)
  | "age" => age? value
  | "gcb" | "graphemeclusterbreak" => Unicode.Class.named? GraphemeBreak.kinds value
  | "wb" | "wordbreak" => Unicode.Class.named? WordBreak.kinds value
  | "sb" | "sentencebreak" => Unicode.Class.named? SentenceBreak.kinds value
  | _ => none

def cutAt (sign : List Char) : List Char → Option (List Char × List Char)
  | [] => none
  | c :: s =>
      if sign.isPrefixOf (c :: s) then some ([], (c :: s).drop sign.length)
      else (cutAt sign s).map fun (before, after) => (c :: before, after)

/-- The set that the text within braces describes, and whether it is what the set leaves out that is
meant. The sign between name and value that says so comes before the others. -/
def described? (body : List Char) : Option (Bool × CharSet) :=
  match cutAt ['!', '='] body with
  | some (name, value) => (set name value).map (true, ·)
  | none =>
      match (cutAt [':'] body).or (cutAt ['='] body) with
      | some (name, value) => (set name value).map (false, ·)
      | none => ((named? (normalize body)).map CharSet.ofClass).map (false, ·)
where
  set (name value : List Char) : Option CharSet :=
    (valued? (normalize name) (normalize value)).map CharSet.ofClass

end ResourceQuery.Pattern.Property
