import ResourceQuery.CommandLine

open ResourceQuery

def inputOf (words : List String) : IO String := do
  match CommandLine.read false words with
  | .ok (.serialize none) => (← IO.getStdin).readToEnd
  | _ => return ""

def main (words : List String) : IO UInt32 := do
  let outcome := CommandLine.run words (← inputOf words)
  IO.print outcome.output
  if let some f := outcome.fault then IO.eprintln f.message
  else if outcome.code != 0 then IO.eprintln "usage: rql (parse | check | normalize | serialize)"
  return outcome.code
