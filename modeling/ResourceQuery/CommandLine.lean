import ResourceQuery.Interchange
import ResourceQuery.Query

namespace ResourceQuery

inductive Command
  | parse (query : String) (indented : Bool)
  | check (query : String)
  | normalize (query : String)
  | serialize (text : Option String)
  | version
  | help
  deriving DecidableEq, Repr

namespace Command

def run (input : String) : Command → Except InputFault String
  | parse query indented =>
      match Query.parse query with
      | .ok c => .ok (if indented then c.toJson.indentedText else c.toJson.text)
      | .error f => .error (.query f)
  | check query =>
      match Query.parse query with
      | .ok _ => .ok "Syntax is valid"
      | .error f => .error (.query f)
  | normalize query =>
      match Shorthand.expand query with
      | .ok s => .ok s
      | .error f => .error (.query (.parse f))
  | serialize text => (Call.ofJsonText (text.getD input)).map Call.text
  | version => .ok "rql 0.1.0"
  | help =>
      .ok ("Usage: rql [--log-level LEVEL] parse [--pretty] QUERY\n" ++
        "       rql [--log-level LEVEL] check QUERY\n" ++
        "       rql [--log-level LEVEL] normalize QUERY\n" ++
        "       rql [--log-level LEVEL] serialize [--input JSON]\n" ++
        "       rql --version")

end Command

namespace CommandLine

def isLevel (word : String) : Bool :=
  let small := String.ofList (word.toList.map Char.toLower)
  ["error", "warn", "info", "debug", "trace"].contains small ||
    (match word.toList.dropWhile (· == '+') with
      | [] => false
      | s => s.all Char.isDigit && (1 ≤ Decimal.natOfDigits s && Decimal.natOfDigits s ≤ 5) &&
          word.length ≤ s.length + 1)

structure Form where
  query : Bool
  pretty : Bool
  input : Bool

structure Words where
  query : Option String
  pretty : Bool
  input : Option String
  level : Option String

/-- Why there is no command to run: a word is wrong or missing, or there is a question that comes
before any command. -/
inductive Stop
  | usage
  | ask (c : Command)

def isOption (word : String) : Bool :=
  match word.toList with
  | '-' :: _ :: _ => true
  | _ => false

namespace Words

def none : Words := ⟨.none, false, .none, .none⟩

def setLevel (w : Words) (level : String) : Except Stop Words :=
  if w.level.isSome || !isLevel level then .error .usage else .ok { w with level := some level }

def setInput (f : Form) (w : Words) (text : String) : Except Stop Words :=
  if w.input.isSome || !f.input then .error .usage else .ok { w with input := some text }

def setPretty (f : Form) (w : Words) : Except Stop Words :=
  if w.pretty || !f.pretty then .error .usage else .ok { w with pretty := true }

def setQuery (f : Form) (w : Words) (query : String) : Except Stop Words :=
  if w.query.isSome || !f.query then .error .usage else .ok { w with query := some query }

/-- Reads options of one letter in one word. What follows the letter of an option with a value is
its value. -/
def readLetters (f : Form) (w : Words) : List Char → Except Stop (Words × Bool)
  | [] => .ok (w, false)
  | 'h' :: _ => .error (.ask .help)
  | 'p' :: s => do readLetters f (← w.setPretty f) s
  | 'i' :: s =>
      match s with
      | [] => if f.input then .ok (w, true) else .error .usage
      | '=' :: s => do return (← w.setInput f (String.ofList s), false)
      | s => do return (← w.setInput f (String.ofList s), false)
  | _ => .error .usage

def read (f : Form) (w : Words) : List String → Except Stop Words
  | [] => .ok w
  | "--" :: rest => rest.foldlM (setQuery f) w
  | word :: rest =>
      if word = "--help" then .error (.ask .help)
      else if word = "--pretty" then do read f (← w.setPretty f) rest
      else if word = "--log-level" ∨ word = "--input" then
        match rest with
        | value :: rest =>
            if isOption value then .error .usage
            else if word = "--input" then do read f (← w.setInput f value) rest
            else do read f (← w.setLevel value) rest
        | [] => .error .usage
      else if "--log-level=".toList.isPrefixOf word.toList then do
        read f (← w.setLevel (String.ofList (word.toList.drop 12))) rest
      else if "--input=".toList.isPrefixOf word.toList then do
        read f (← w.setInput f (String.ofList (word.toList.drop 8))) rest
      else if "--".toList.isPrefixOf word.toList then .error .usage
      else if isOption word then
        match w.readLetters f (word.toList.drop 1) with
        | .error s => .error s
        | .ok (w, false) => read f w rest
        | .ok (w, true) =>
            match rest with
            | value :: rest =>
                if isOption value then .error .usage
                else do read f (← w.setInput f value) rest
            | [] => .error .usage
      else do read f (← w.setQuery f word) rest

def withQuery (w : Words) (command : String → Command) : Except Stop Command :=
  match w.query with
  | some q => .ok (command q)
  | .none => .error .usage

end Words

def readNamed (name : String) (words : List String) : Except Stop Command := do
  let plain : Form := ⟨true, false, false⟩
  match name with
  | "parse" =>
      let w ← Words.none.read ⟨true, true, false⟩ words
      w.withQuery fun q => .parse q w.pretty
  | "check" => (← Words.none.read plain words).withQuery .check
  | "normalize" => (← Words.none.read plain words).withQuery .normalize
  | "serialize" => return .serialize (← Words.none.read ⟨false, false, true⟩ words).input
  | "help" => throw (.ask .help)
  | _ => throw .usage

/-- Reads a whole command line. The level of diagnostics may stand before the command too. -/
def read (level : Bool) : List String → Except Stop Command
  | [] => .error .usage
  | word :: rest =>
      if word = "--version" ∨ "-V".toList.isPrefixOf word.toList then .error (.ask .version)
      else if word = "--help" ∨ "-h".toList.isPrefixOf word.toList then .error (.ask .help)
      else if word = "--log-level" then
        match rest with
        | value :: rest => if level || !isLevel value then .error .usage else read true rest
        | [] => .error .usage
      else if "--log-level=".toList.isPrefixOf word.toList then
        if level || !isLevel (String.ofList (word.toList.drop 12)) then .error .usage
        else read true rest
      else readNamed word rest

structure Outcome where
  code : UInt32
  output : String
  fault : Option InputFault

/-- Runs a command line. A wrong one prints nothing of its own. -/
def run (words : List String) (input : String) : Outcome :=
  let command :=
    match read false words with
    | .ok c | .error (.ask c) => some c
    | .error .usage => none
  match command.map (Command.run input) with
  | some (.ok line) => ⟨0, line ++ "\n", none⟩
  | some (.error f) => ⟨1, "", some f⟩
  | none => ⟨2, "", none⟩

end CommandLine

end ResourceQuery
