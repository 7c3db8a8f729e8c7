import ChainLint.CommandLine.Run

/-!
# The program

Reads what the arguments name, asks `CommandLine.run` for the answer, and writes it.
-/

namespace ChainLint.CommandLine

/-- An entry of a directory as a node: what may be linted, and the directories that are searched. -/
partial def observeEntry (entry : IO.FS.DirEntry) : IO (Option (String × Node)) := do
  match (← entry.path.symlinkMetadata).type with
  | .file =>
    if isLintable entry.fileName then
      pure (some (entry.fileName, .file (← IO.FS.readBinFile entry.path)))
    else pure none
  | .dir =>
    if entry.fileName = packagesName then pure none
    else do
      let entries ← (← entry.path.readDir).toList.filterMapM observeEntry
      pure (some (entry.fileName, .directory entries))
  | _ => pure none

/-- What a path leads to, links being followed. -/
def observe (start : IO.FS.DirEntry) : IO (Except ReadFault Node) := do
  try
    match (← start.path.metadata).type with
    | .file => do pure (.ok (.file (← IO.FS.readBinFile start.path)))
    | .dir => do
      let entries ← (← start.path.readDir).toList.filterMapM observeEntry
      pure (.ok (.directory entries))
    | _ => pure (.error .notFound)
  catch _ => pure (.error .notFound)

/-- The paths that arguments name. -/
def namedPaths (args : List String) : List String :=
  match Request.ofArguments args with
  | .ok (.lint r) => r.config.toList ++ r.paths
  | _ => []

/-- Whether the output is to have colours. -/
def choosePalette : IO Palette := do
  let forced ← IO.getEnv "CLICOLOR_FORCE"
  let declined ← IO.getEnv "NO_COLOR"
  if forced.any (· != "0") then pure .coloured
  else if declined.isSome then pure .plain
  else if ← (← IO.getStdout).isTty then pure .coloured
  else pure .plain

end ChainLint.CommandLine

open ChainLint.CommandLine in
/-- Runs the program on the files below the current directory. -/
def main (args : List String) : IO UInt32 := do
  let here ← IO.currentDir
  let seen ← (namedPaths args).mapM fun path => do pure (path, ← observe ⟨here, path⟩)
  let disk : Disk := fun path => (seen.lookup path).getD (.error .notFound)
  let answer := run (← choosePalette) disk args
  IO.eprint answer.errors
  IO.print answer.output
  pure answer.exit.toUInt32
