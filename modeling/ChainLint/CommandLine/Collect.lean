import ChainLint.CommandLine.Failure

/-!
# Collecting files

The arguments name files and directories.  A file is taken if it is lintable; of a directory every
lintable file below it, except below a directory that holds installed packages.

* `Node.lintable path node`: the lintable files at a path and below it.
* `collect disk paths`: the files of all paths, by the components of their paths and each path once.
-/

namespace ChainLint.CommandLine

/-- A file that has been found: its path and its contents. -/
structure SourceFile where
  path : String
  bytes : ByteArray
deriving Inhabited

/-- The extensions of files that can be linted. -/
def lintableExtensions : List String := ["js", "jsx", "mjs", "cjs", "ts", "tsx", "mts", "cts"]

/-- Whether a path names a file that can be linted. -/
def isLintable (path : String) : Bool :=
  match Path.extension? path with
  | some e => lintableExtensions.contains e
  | none => false

/-- The name of directories that hold installed packages. -/
def packagesName : String := "node_modules"

namespace Node

mutual

/-- The lintable files at a path and below it. -/
def lintable (path : String) : Node → List SourceFile
  | .file bytes => if isLintable path then [⟨path, bytes⟩] else []
  | .directory entries => lintableEntries path entries

/-- The lintable files among the entries of a directory and below them. -/
def lintableEntries (path : String) : List (String × Node) → List SourceFile
  | [] => []
  | (name, node) :: rest =>
    (if name = packagesName then [] else lintable (Path.join path name) node) ++
      lintableEntries path rest

end

end Node

/-- The files that an argument stands for. -/
def filesAt (disk : Disk) (path : String) : Except Failure (List SourceFile) :=
  match disk path with
  | .error _ => .error (.pathNotFound path)
  | .ok (.file bytes) => .ok (Node.lintable path (.file bytes))
  | .ok (.directory entries) =>
    if Path.fileName? path = some packagesName then .ok []
    else .ok (Node.lintableEntries path entries)

/-- The files that arguments stand for, in the order of the arguments. -/
def filesAtAll (disk : Disk) : List String → Except Failure (List SourceFile)
  | [] => .ok []
  | path :: rest =>
    match filesAt disk path with
    | .error f => .error f
    | .ok files => (filesAtAll disk rest).map (files ++ ·)

/-- Leaves out each file whose path is the same as that of the file before it. -/
def dropRepeats : List SourceFile → List SourceFile
  | [] => []
  | [f] => [f]
  | f :: g :: rest =>
    if Path.sameAs f.path g.path then dropRepeats (f :: rest) else f :: dropRepeats (g :: rest)
termination_by files => files.length

/-- The files of all arguments by their paths, each path once. -/
def collect (disk : Disk) (paths : List String) : Except Failure (List SourceFile) :=
  (filesAtAll disk paths).map fun files =>
    dropRepeats (files.mergeSort fun f g => Path.precedes f.path g.path)

end ChainLint.CommandLine
