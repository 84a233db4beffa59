namespace ChipEight

/-! Paths to files. Slashes separate components; an empty component leads
nowhere, nor does a single dot, and two dots lead to the directory above. -/

namespace Path

def components (path : String) : List String :=
  (path.splitOn "/").filter fun component => component ≠ "" && component ≠ "."

/-- The name a path gives to what lies there. A path that ends upwards gives none. -/
def fileName? (path : String) : Option String :=
  (components path).getLast?.filter (· ≠ "..")

/-- The first name that has to be looked up. Without one a path ends at a directory. -/
def firstName? (path : String) : Option String :=
  (components path).find? (· ≠ "..")

/-- A path that begins with a slash does not depend on a directory. -/
def join (directory path : String) : String :=
  if path.startsWith "/" then path else directory ++ "/" ++ path

def nameLimit : Nat :=
  255

def lengthLimit : Nat :=
  4095

end Path

end ChipEight
