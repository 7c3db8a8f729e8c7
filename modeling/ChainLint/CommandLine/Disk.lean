import ChainLint.Path

/-!
# Files and directories

A `Node` is a file with its bytes or a directory with its entries.

* `Node.find node path`: what a relative path leads to from a directory.
* `Node.text?`: the text of a file.
* `Node.place node names new`: the tree with a node put at a place.
-/

namespace ChainLint.CommandLine

/-- A file or a directory. -/
inductive Node
  | file (bytes : ByteArray)
  | directory (entries : List (String × Node))
deriving Inhabited

/-- Why a path cannot be read as a text. -/
inductive ReadFault
  | notFound
  | notDirectory
  | isDirectory
  | notText
deriving DecidableEq, Inhabited

/-- The wording of a fault, with its number where the system gives one. -/
def ReadFault.message : ReadFault → String
  | .notFound => "No such file or directory (os error 2)"
  | .notDirectory => "Not a directory (os error 20)"
  | .isDirectory => "Is a directory (os error 21)"
  | .notText => "stream did not contain valid UTF-8"

namespace Node

/-- What the pieces of a path lead to; the trail holds the node that has been reached and then the
directories above it, the nearest first. -/
def follow : List Node → List (List Char) → Except ReadFault Node
  | [], _ => .error .notFound
  | node :: _, [] => .ok node
  | .file _ :: _, _ :: _ => .error .notDirectory
  | .directory entries :: above, piece :: rest =>
    if piece = [] || piece = ['.'] then follow (.directory entries :: above) rest
    else if piece = ['.', '.'] then
      follow (if above.isEmpty then [.directory entries] else above) rest
    else
      match entries.lookup (String.ofList piece) with
      | some node => follow (node :: .directory entries :: above) rest
      | none => .error .notFound

/-- What a relative path leads to from a directory; nothing else is within reach, and an empty path
leads nowhere. -/
def find (root : Node) (path : String) : Except ReadFault Node :=
  if path = "" ∨ path.toList.head? = some '/' then .error .notFound
  else follow [root] (Path.pieces path.toList)

/-- The text of a file. -/
def text? : Node → Except ReadFault String
  | .directory _ => .error .isDirectory
  | .file bytes =>
    match String.fromUTF8? bytes with
    | some text => .ok text
    | none => .error .notText

/-- The directory without entries. -/
def empty : Node := .directory []

/-- Entries with one put in place of another of its name, or behind them. -/
def setEntry (name : String) (node : Node) : List (String × Node) → List (String × Node)
  | [] => [(name, node)]
  | e :: rest => if e.1 = name then (name, node) :: rest else e :: setEntry name node rest

/-- The tree with a node put at a place; directories on the way are made. -/
def place (root : Node) : List String → Node → Node
  | [], new => new
  | name :: names, new =>
    match root with
    | .directory entries =>
      .directory (setEntry name (((entries.lookup name).getD empty).place names new) entries)
    | .file _ => .directory [(name, empty.place names new)]

end Node

/-- What paths lead to. -/
abbrev Disk := String → Except ReadFault Node

end ChainLint.CommandLine
