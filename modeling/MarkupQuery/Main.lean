import MarkupQuery.Command.Run

/-!
# The command line tool

The files and folders that the words of a command line may name are read, the command is run on them, and
what it printed and wrote is put out.
-/

open MarkupQuery MarkupQuery.Storage MarkupQuery.Command

/-- The number under which a system reports that a path leads to a folder. -/
def folderNumber : UInt32 := 21

/-- Adds what is found under a name. -/
def lookUp (s : Files) (name : String) : IO Files := do
  let path := Path.ofText name
  let place := path.start ++ path.names
  try
    let bytes ← IO.FS.readBinFile name
    return s.put place bytes.toList
  catch
    | .inappropriateType _ number _ =>
        return if number == folderNumber then { s with folders := s.folders ++ [place] } else s
    | _ => return s

/-- All lines of a stream. -/
partial def readAll (input : IO.FS.Stream) (done : String) : IO String := do
  let line ← input.getLine
  if line.isEmpty then return done else readAll input (done ++ line)

/-- Writes the files that were not there before. -/
def writeNew (before after : Files) : IO Unit := do
  for f in after.files do
    if (before.files.lookup f.1).isNone then
      let path := Path.ofPlace f.1
      IO.FS.createDirAll path.around.text
      IO.FS.writeBinFile path.text f.2.toByteArray

/-- Runs a command line. -/
def main (words : List String) : IO UInt32 := do
  let files ← (mentionedNames words).foldlM lookUp {}
  let input ← if words.contains "-" then readAll (← IO.getStdin) "" else pure ""
  let report := Command.run ⟨files, input.toList⟩ words
  IO.print (String.ofList report.printed)
  if report.complaint != "" then IO.eprintln report.complaint
  writeNew files report.files
  match report.status with
  | .done code | .refused code => return UInt32.ofNat code
  | .stopped fault => do
      IO.eprintln fault.message
      return 1
