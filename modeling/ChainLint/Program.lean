import ChainLint.Comment.Body
import ChainLint.Expr
import ChainLint.Path

/-!
# Programs

A `Program` is what the rules see of a source: its comments and its expressions, the expressions of
statements in the order in which they occur.

`SourceKind.ofPath path` is the kind of source that a file holds, by its extension in exact letter
case; a file of any other name holds typed code with elements.
-/

namespace ChainLint

/-- The comments and the outermost expressions of a source. -/
structure Program where
  comments : List Comment
  body : List Expr
deriving Inhabited

/-- The logical expressions of a program, each before what it contains. -/
def Program.logicals (p : Program) : List Logical := Expr.logicalsIn p.body

/-- Which forms a source may use: types, elements, a `return` outside functions, and bindings whose
values are elsewhere. -/
structure SourceKind where
  typed : Bool
  elements : Bool
  script : Bool
  ambient : Bool
deriving DecidableEq, Inhabited

namespace SourceKind

/-- A module without types and elements. -/
def plain : SourceKind := ⟨false, false, false, false⟩

/-- A module with types. -/
def typedModule : SourceKind := { plain with typed := true }

/-- Typed code with elements. -/
def full : SourceKind := { typedModule with elements := true }

/-- The extensions with the kind of their files. -/
def extensions : List (String × SourceKind) :=
  [("js", plain), ("mjs", plain), ("cjs", { plain with script := true }),
    ("jsx", { plain with elements := true }), ("ts", typedModule), ("mts", typedModule),
    ("cts", { typedModule with script := true }), ("tsx", full)]

/-- Whether a file of a name with two extensions only declares: `.d` before one of typed modules. -/
def isAmbientName (name : String) : Bool :=
  [".d.ts", ".d.mts", ".d.cts"].any fun e => e.toList.reverse.isPrefixOf name.toList.reverse

/-- The kind of source that a file holds. -/
def ofPath (path : String) : SourceKind :=
  let kind := ((Path.extension? path).bind fun e => extensions.lookup e).getD full
  { kind with ambient := ((Path.fileName? path).map isAmbientName).getD false }

/-- The name of a kind. -/
def text (kind : SourceKind) : String :=
  match kind.typed, kind.elements with
  | true, true => "TSX"
  | true, false => "TypeScript"
  | false, true => "JSX"
  | false, false => "JavaScript"

end SourceKind

end ChainLint
