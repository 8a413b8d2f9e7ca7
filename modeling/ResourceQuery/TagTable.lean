import ResourceQuery.Leaf
import ResourceQuery.Quoted

namespace ResourceQuery

structure TagTable where
  entries : List (String × Leaf.Reader)

namespace TagTable

def empty : TagTable := ⟨[]⟩

def find? (t : TagTable) (tag : String) : Option Leaf.Reader :=
  (t.entries.find? (·.1 == tag)).map (·.2)

/-- Adds a reader, in the place of one with the same tag. -/
def insert (t : TagTable) (tag : String) (read : Leaf.Reader) : TagTable :=
  ⟨(tag, read) :: t.entries.filter (·.1 != tag)⟩

def autoTag : String := "auto"

def standard : TagTable :=
  ⟨[("number", Leaf.number), ("epoch", Leaf.epoch), ("isodate", Leaf.incompleteDate),
    ("date", Leaf.date), ("boolean", Leaf.boolean), ("string", Leaf.string),
    ("re", Leaf.pattern false), ("RE", Leaf.pattern true), ("json", Leaf.json),
    (autoTag, Leaf.auto), ("default", Leaf.auto)]⟩

def get? (t : TagTable) (tag : String) : Option Leaf.Reader :=
  (t.find? tag).or (t.find? (Unicode.toLower tag))

def contains (t : TagTable) (tag : String) : Bool := (t.get? tag).isSome

def tags (t : TagTable) : List String := (t.entries.map (·.1)).mergeSort (· ≤ ·)

def describe (t : TagTable) : String :=
  "ConverterRegistry \x7b tags: [" ++ ", ".intercalate (t.tags.map Quoted.quote) ++ "] \x7d"

/-- Reads a leaf without tag. A table without a reader for these has the built-in one. -/
def auto (t : TagTable) : Leaf.Reader := (t.find? autoTag).getD Leaf.auto

def unescapeColons (s : List Char) : String := String.ofList (Text.replace ['\\', ':'] [':'] s)

def splitTag (s : List Char) : Option (List Char × List Char) :=
  let tag := s.takeWhile Text.isWord
  match tag, s.drop tag.length with
  | _ :: _, ':' :: rest => some (tag, rest)
  | _, _ => none

/-- Reads a leaf by its tag. A colon after a backslash is no end of a tag. -/
def read (t : TagTable) (text : String) : Except Fault Value :=
  match splitTag text.toList with
  | none => (t.auto (unescapeColons text.toList)).mapError .conversion
  | some (tag, rest) =>
      match t.get? (String.ofList tag) with
      | none => .error (.parse (.unknownTag (String.ofList tag)))
      | some read => (read (unescapeColons rest)).mapError .conversion

end TagTable

end ResourceQuery
