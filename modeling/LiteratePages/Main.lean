import LiteratePages.Command.Run

/-!
The program: it takes the files that a command may need, runs the command on them, and writes back
what the command changed. Of the files outside the working directory it takes those that the command
line and the settings of a site name.
-/
namespace LiteratePages

/-- The files below a directory whose place in the working directory is `place`. -/
partial def loadFiles (files : Files) (place : String) (directory : IO.FS.DirEntry) :
    IO Files := do
  let mut files := files
  for entry in ← directory.path.readDir do
    let path := Path.join place entry.fileName
    if ← entry.path.isDir then
      files ← loadFiles (files.layOut path .directory) path entry
    else
      files := files.layOut path (.file (← IO.FS.readBinFile entry.path))
  return files

/-- Adds those of some files that can be read and are not there yet. -/
def loadNamed (files : Files) (paths : List String) : IO Files :=
  paths.foldlM (fun files path => do
    if let .ok (some _) := files.find path then return files
    try return files.layOut path (.file (← IO.FS.readBinFile path))
    catch _ => return files) files

def Command.inputs : Command → List String
  | .html file _ | .showMeta file => [file]
  | .render options => options.file :: options.data.toList
  | .build config => [config]

/-- The files that a site is built from, besides its settings. -/
def siteInputs (files : Files) : Command → List String
  | .build path => match SiteConfig.load files path with
      | .ok config => config.template :: config.pages
      | .error _ => []
  | _ => []

/-- Writes the files that a command made or changed. -/
def storeFiles (before after : Files) : IO Unit := do
  for (place, content) in before.changes after do
    IO.FS.createDirAll ("/" ++ "/".intercalate place.dropLast)
    IO.FS.writeBinFile ("/" ++ "/".intercalate place) content

def runCommand (command : Command) : IO UInt32 := do
  let working := Files.steps (← IO.currentDir).toString
  let below ← loadFiles ⟨[], working⟩ "" ⟨".", "."⟩
  let named ← loadNamed below command.inputs
  let before ← loadNamed named (siteInputs named command)
  let report := command.run before
  storeFiles before report.files
  (← IO.getStdout).putStr report.printed
  if let some notice := report.notice then
    (← IO.getStderr).putStrLn notice
  if let some error := report.error then
    (← IO.getStderr).putStrLn ("error: " ++ error.message)
  return report.exitCode

end LiteratePages

open LiteratePages in
def main (arguments : List String) : IO UInt32 := do
  match Invocation.ofArguments arguments with
  | .run command => runCommand command
  | .version =>
      IO.println versionText
      return 0
  | .help =>
      IO.println "litpage [--no-color] [-v] html|render|meta|build ..."
      return 0
  | .misuse =>
      IO.eprintln "error: this command line makes no sense; try --help"
      return 2
