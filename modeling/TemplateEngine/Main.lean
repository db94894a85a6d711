import Std.Time.Format
import TemplateEngine.CommandLine.Run
import TemplateEngine.Document.Standard
import TemplateEngine.Host.Standard
import TemplateEngine.Text.Control

/-!
# The command line program

The program reads the files below the working directory and those that the command line points
to, runs the command line on them, and writes back what the run has changed.
-/

namespace TemplateEngine.CommandLine.Program

/-- Entries of a file tree. -/
abbrev Entries := Array (List String × FileEntry)

/-- A file, read for its text: the text, or why it cannot be read. -/
def entryOf (read : IO String) : IO FileEntry := do
  try return .file (← read)
  catch
    | .permissionDenied .. => return .unreadable .permission
    | _ => return .unreadable .unicode

/-- The entry at a place and those below it. -/
partial def collectFrom (found : Entries) (place : List String) (entry : IO.FS.DirEntry) :
    IO Entries := do
  let place := place ++ [entry.fileName]
  if ← entry.path.isDir then
    let mut found := found.push (place, .directory)
    for child in ← entry.path.readDir do
      found ← collectFrom found place child
    return found
  else
    return found.push (place, ← entryOf (IO.FS.readFile entry.path))

/-- The places from the root down to a place, which is left out. -/
def placesAbove (place : List String) : List (List String) :=
  (List.range place.length).map fun n => place.take n

/-- The entries at an absolute place, above it and below it. -/
def collectAt (found : Entries) (place : List String) : IO Entries := do
  let target := (← IO.currentDir) / ("/" ++ String.intercalate "/" place)
  if ← target.isDir then
    let mut found := found ++
      ((placesAbove place ++ [place]).map fun above => (above, FileEntry.directory)).toArray
    for child in ← target.readDir do
      found ← collectFrom found place child
    return found
  else if ← target.pathExists then
    return found ++ ((placesAbove place).map fun above => (above, FileEntry.directory)).toArray
      |>.push (place, ← entryOf (IO.FS.readFile target))
  else
    return found

/-- The paths that a command line points to. -/
def sources : Invocation → List Path
  | .run r => [r.directory, r.settings, r.dataFile].filterMap id
  | _ => []

/-- A path given from outside. -/
def outside? (name : String) : IO (Option Path) := do
  return Path.ofOutside? (← IO.getEnv name)

/-- The home directories of users: that of the current one from outside, and those that the system
lists. -/
def homes : IO (String → Option String) := do
  let own ← IO.getEnv "HOME"
  let listed ← try IO.FS.lines "/etc/passwd" catch _ => pure #[]
  return fun user =>
    if user = "" then own
    else listed.toList.findSome? fun line => match line.splitOn ":" with
      | name :: _ :: _ :: _ :: _ :: directory :: _ => if name = user then some directory else none
      | _ => none

/-- What a run has at hand when the program starts. -/
def start (words : List String) : IO Session := do
  let here := Path.ofText (← IO.currentDir).toString
  let configuration ← outside? "TEMPLATE_ENGINE_CONFIG"
  let templates ← outside? "TEMPLATE_ENGINE_TEMPLATES"
  let paths := sources (Invocation.read words) ++ [configuration, templates].filterMap id
  let mut found ← collectAt #[] here.steps
  for path in paths do
    if path.isAbsolute then found ← collectAt found path.steps
  let stamp := (← Std.Time.PlainDateTime.now).format "uuuu-MM-dd HH:mm:ss"
  return {
    surroundings := {
      files := { here := here.steps, entries := found.toList }
      documents := .standard
      home := ← homes
      configuration := configuration
      templates := templates }
    host := .standard
    reads := Invocation.read
    strip := Text.withoutControls
    log := { stamp := stamp }
    terminal := ← (← IO.getStdout).isTty
    provenance := { command := String.intercalate " " words, workingDirectory := here.text } }

/-- Writes an entry of a file tree. -/
def writeEntry (place : List String) (entry : FileEntry) : IO Unit := do
  let target := "/" ++ String.intercalate "/" place
  match entry with
  | .directory => IO.FS.createDirAll target
  | .file text => IO.FS.writeFile target text
  | .unreadable _ => pure ()

/-- Writes back what a run has changed, outermost directories first. -/
def writeChanges (before after : FileTree) : IO Unit := do
  let changed := after.entries.filter fun (place, entry) =>
    !decide (before.entryAt place = some entry)
  for (place, entry) in changed.mergeSort fun a b => a.1.length ≤ b.1.length do
    writeEntry place entry

/-- How the program is used. -/
def usage : String :=
  "Usage: render | exists | path NAME [--directory DIR] [--config FILE]\n" ++
  "       render NAME [--data KEY=VALUE]... [--data-file FILE] [--output FILE] [--log-dir DIR]\n"

/-- Prints how the program is used, or a fault that was not reported. -/
def printEnding : Ending → IO Unit
  | .help => IO.print usage
  | .misuse => IO.eprint usage
  | .escaped fault => IO.eprint (fault.kind.name ++ ": " ++ fault.message ++ "\n")
  | _ => pure ()

end TemplateEngine.CommandLine.Program

/-- Runs the command line and hands its status back. -/
def main (words : List String) : IO UInt32 := do
  let session ← TemplateEngine.CommandLine.Program.start words
  let outcome := TemplateEngine.CommandLine.run session words
  TemplateEngine.CommandLine.Program.writeChanges session.files outcome.session.files
  IO.print outcome.session.output
  IO.eprint outcome.session.errorOutput
  TemplateEngine.CommandLine.Program.printEnding outcome.ending
  return outcome.ending.status.toUInt32
