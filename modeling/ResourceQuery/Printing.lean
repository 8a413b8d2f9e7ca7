import ResourceQuery.Calendar.Timestamp
import ResourceQuery.Json.Writing
import ResourceQuery.TagTable
import ResourceQuery.Term

namespace ResourceQuery

def Value.plain : Value → String
  | null => "null"
  | undefined => "undefined"
  | boolean b => if b then "true" else "false"
  | number x => Numeral.write x
  | string s => s
  | date t => String.ofList t.write
  | pattern p => p.source
  | json j => j.text

/-- The text of a value with its tag. A date keeps its colons, which are no end of a tag after the
first, and JSON is enclosed in quotes. -/
def Value.tagged (v : Value) : String :=
  match v with
  | string s => "string:" ++ Percent.encode s
  | date _ => "date:" ++ v.plain
  | json _ => "json:'" ++ Percent.encode v.plain ++ "'"
  | v => v.typeName ++ ":" ++ Percent.encode v.plain

namespace TagTable

def readsBack (t : TagTable) (v : Value) : Bool :=
  match t.auto v.plain with
  | .ok w => w.same v
  | .error _ => false

/-- The text of a value as a leaf. It has a tag where it would else read as something different,
and an empty string always has one, since an empty argument is none. -/
def writeValue (t : TagTable) (v : Value) : String :=
  match v with
  | .null => "null"
  | .string s =>
      if s.isEmpty then "string:"
      else if t.readsBack v then Percent.encode s
      else v.tagged
  | v => if t.readsBack v then v.plain else v.tagged

mutual

def write (t : TagTable) : Term → String
  | .call name args => name ++ "(" ++ writeAll t args ++ ")"
  | .leaf v => t.writeValue v
  | .list items => "(" ++ writeAll t items ++ ")"

def writeAll (t : TagTable) : List Term → String
  | [] => ""
  | [x] => write t x
  | x :: xs => write t x ++ "," ++ writeAll t xs

end

def writeCall (t : TagTable) (c : Call) : String := t.write c.toTerm

end TagTable

def Call.text (c : Call) : String := TagTable.standard.writeCall c

end ResourceQuery
