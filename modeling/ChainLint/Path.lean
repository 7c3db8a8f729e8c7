/-!
# Paths

A path is its text; what it names is read off its components.  Slashes separate components, repeated
and final slashes count once, and a single dot counts only at the start of a relative path.

* `Path.components`: the components of a path.
* `Path.fileName?`, `Path.extension?`: the last component and what follows its last dot.
* `Path.precedes`: the order by components, in which `a/z` comes before `a-b`.
* `Path.sameAs`: whether two texts are one path.
-/

namespace ChainLint.Path

/-- A part of a path. -/
inductive Component
  | root
  | current
  | parent
  | normal (name : String)
deriving DecidableEq, Inhabited

/-- The texts between slashes. -/
def pieces : List Char → List (List Char)
  | [] => [[]]
  | c :: cs =>
    if c = '/' then [] :: pieces cs
    else
      match pieces cs with
      | [] => [[c]]
      | p :: ps => (c :: p) :: ps

/-- The component that a text between slashes is, if it counts away from the start. -/
def component? (piece : List Char) : Option Component :=
  if piece = [] || piece = ['.'] then none
  else if piece = ['.', '.'] then some .parent
  else some (.normal (String.ofList piece))

/-- The components of a path. -/
def components (path : String) : List Component :=
  let ps := pieces path.toList
  let start : List Component :=
    match ps with
    | [] :: _ :: _ => [.root]
    | ['.'] :: _ => [.current]
    | _ => []
  start ++ ps.filterMap component?

/-- The last component, if it is a name. -/
def fileName? (path : String) : Option String :=
  match (components path).getLast? with
  | some (.normal name) => some name
  | _ => none

/-- What follows the last dot of a name, unless the name starts with it. -/
def suffix? (name : List Char) : Option String :=
  let behind := (name.reverse.takeWhile (· ≠ '.')).reverse
  if behind.length + 1 < name.length then some (String.ofList behind) else none

/-- The extension of the file that a path names. -/
def extension? (path : String) : Option String :=
  (fileName? path).bind fun name => suffix? name.toList

/-- The rank of a component's form. -/
def Component.rank : Component → Nat
  | .root => 0
  | .current => 1
  | .parent => 2
  | .normal _ => 3

/-- Whether the component `a` comes strictly before `b`: names follow the other forms. -/
def Component.before (a b : Component) : Bool :=
  match a, b with
  | .normal x, .normal y => x < y
  | a, b => a.rank < b.rank

/-- Whether the components `a` come before `b` or are the same. -/
def componentsPrecede : List Component → List Component → Bool
  | [], _ => true
  | _ :: _, [] => false
  | a :: as, b :: bs => a.before b || (a = b && componentsPrecede as bs)

/-- Whether the path `a` is listed before `b` or has the same components. -/
def precedes (a b : String) : Bool := componentsPrecede (components a) (components b)

/-- Whether two texts have the same components. -/
def sameAs (a b : String) : Bool := components a = components b

/-- The path of an entry of a directory. -/
def join (directory name : String) : String :=
  if directory.toList.getLast? = some '/' then directory ++ name else directory ++ "/" ++ name

end ChainLint.Path
