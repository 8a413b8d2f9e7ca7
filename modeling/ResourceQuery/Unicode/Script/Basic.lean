import ResourceQuery.Unicode.Class

namespace ResourceQuery.Unicode

/-- A script by its long and its short names in small letters and without separators. A character of
no one script belongs to the common or to the inherited ones. -/
structure Script where
  names : List String
  chars : Class

end ResourceQuery.Unicode
