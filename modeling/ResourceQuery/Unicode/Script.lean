import ResourceQuery.Unicode.Script.AfricaAmerica
import ResourceQuery.Unicode.Script.EastAsia
import ResourceQuery.Unicode.Script.Europe
import ResourceQuery.Unicode.Script.NearEast
import ResourceQuery.Unicode.Script.SouthAsia
import ResourceQuery.Unicode.Script.SoutheastAsia
import ResourceQuery.Unicode.Script.Shared

namespace ResourceQuery.Unicode

namespace Script

def scripts : List Script :=
  european ++ nearEastern ++ southAsian ++ southeastAsian ++ eastAsian ++ africanAndAmerican

def named? (name : String) : Option Script := scripts.find? (·.names.contains name)

def sharedChars (s : Script) : Class :=
  .spans ((shared.filter fun (names, _) => names.any s.names.contains).flatMap (·.2))

/-- The characters that a script uses. What several scripts are known to share belongs to these
alone. -/
def extended (s : Script) : Class :=
  (s.chars \ .spans (shared.flatMap (·.2))) ∪ s.sharedChars

end Script

end ResourceQuery.Unicode
