import ResourceQuery.Printing

namespace ResourceQuery

inductive TreeFault
  | pattern (f : Pattern.Fault)
  | args (name : String) (found : Json)
  | noCall (found : Term)

def TreeFault.message : TreeFault → String
  | .pattern f => f.message
  | .args name found => "`args` of `" ++ name ++ "` must be an array, got " ++ found.text
  | .noCall found =>
      "expected an operator object at the top level, got `" ++ TagTable.standard.write found ++ "`"

inductive InputFault
  | query (f : Fault)
  | json (f : Json.Fault)
  | tree (f : TreeFault)

def InputFault.message : InputFault → String
  | .query f => f.message
  | .json f => "Invalid JSON: " ++ f.message
  | .tree f => "Invalid tree: " ++ f.message

/-- A value as JSON. Values that JSON has no form for are objects with a mark for their key. -/
def Value.toJson : Value → Json
  | null => .null
  | undefined => .object [("$undefined", .bool true)]
  | boolean b => .bool b
  | number x =>
      if x.isFinite then .number (.double x)
      else .object [("$number", .string (TagTable.standard.writeValue (number x)))]
  | string s => .string s
  | date t => .object [("$date", .string (String.ofList t.write))]
  | pattern p => .object [("$regex", .string p.source), ("caseSensitive", .bool p.caseSensitive)]
  | json j => .object [("$json", j)]

def Json.string? : Json → Option String
  | string s => some s
  | _ => none

def Json.bool? : Json → Option Bool
  | bool b => some b
  | _ => none

/-- The value that an object without a name stands for, by the first of the marks among its keys.
An object without mark is a JSON value of its own. -/
def Value.ofMembers (members : List (String × Json)) : Except InputFault Value :=
  let text? (key : String) := (Json.find? key members).bind Json.string?
  let leaf (r : Except LeafFault Value) := r.mapError fun f => InputFault.query (.conversion f)
  match text? "$date", text? "$regex", text? "$number" with
  | some s, _, _ => leaf (Leaf.date s)
  | none, some s, _ =>
      let caseSensitive := ((Json.find? "caseSensitive" members).bind Json.bool?).getD false
      match Pattern.ofSource s caseSensitive with
      | .ok p => .ok (.pattern p)
      | .error f => .error (.tree (.pattern f))
  | none, none, some s => leaf (Leaf.number s)
  | none, none, none =>
      if (Json.find? "$undefined" members).isSome then .ok .undefined
      else .ok (.json ((Json.find? "$json" members).getD (.object members)))

namespace Term

mutual

def toJson : Term → Json
  | call name args => .object [("args", .array (allToJson args)), ("name", .string name)]
  | leaf v => v.toJson
  | list items => .array (allToJson items)

def allToJson : List Term → List Json
  | [] => []
  | t :: ts => toJson t :: allToJson ts

end

mutual

/-- The term that a JSON value stands for. An object with a name is a call, whatever else it has
in it. -/
def ofJson : Json → Except InputFault Term
  | .null => .ok (leaf .null)
  | .bool b => .ok (leaf (.boolean b))
  | .number n => .ok (leaf (.number n.toBinary64))
  | .string s => .ok (leaf (.string s))
  | .array items => (allOfJson items).map list
  | .object members =>
      match (Json.find? "name" members).bind Json.string? with
      | some name => (argsOfMembers name members).map (call name)
      | none => (Value.ofMembers members).map leaf

def allOfJson : List Json → Except InputFault (List Term)
  | [] => .ok []
  | j :: js => do
      let t ← ofJson j
      let ts ← allOfJson js
      return t :: ts

/-- The arguments among the members of a call. A call without any has none. -/
def argsOfMembers (name : String) : List (String × Json) → Except InputFault (List Term)
  | [] => .ok []
  | (key, j) :: rest =>
      if key = "args" then
        match j with
        | .array items => allOfJson items
        | j => .error (.tree (.args name j))
      else argsOfMembers name rest

end

end Term

namespace Call

def toJson (c : Call) : Json := c.toTerm.toJson

def ofJson (j : Json) : Except InputFault Call := do
  match ← Term.ofJson j with
  | .call name args => return ⟨name, args⟩
  | t => throw (.tree (.noCall t))

def ofJsonText (text : String) : Except InputFault Call :=
  match Json.read text.toList with
  | .ok j => ofJson j
  | .error f => .error (.json f)

end Call

end ResourceQuery
