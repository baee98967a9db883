import Flowchart.Command.Run

/-! The program: fills in the files that the words name and the variables of the settings, runs the
command line, and writes what it leaves. -/

namespace Flowchart

/-- Every path that a word may name: the word itself, what follows an equals sign, and what follows
a letter. -/
def candidatePaths (words : List String) : List String :=
  words.flatMap fun word =>
    let chars := word.toList
    [word, String.ofList ((chars.dropWhile (· ≠ '=')).drop 1), String.ofList (chars.drop 2)]

/-- The starts of a path, down to the path itself. -/
def pathStarts (path : FilePath) : List FilePath :=
  (List.range (path.names.length + 1)).map fun count => { path with names := path.names.take count }

/-- Adds what stands at a path. -/
def fillPath (files : Files) (path : FilePath) : IO Files := do
  -- A start of the path that leads nowhere leaves nothing to look for.
  match files.locate path with
  | .error _ => return files
  | .ok place =>
    let real := (← IO.currentDir) / path.toText
    if ← real.isDir then return { files with folders := files.folders ++ [place] }
    else if ← real.pathExists then return files.put place (← IO.FS.readBinFile real)
    else return files

/-- The files that words name. -/
def fillFiles (words : List String) : IO Files := do
  let home := (FilePath.ofText (← IO.currentDir).toString).names
  let paths := (candidatePaths (".env" :: words)).flatMap fun word => pathStarts (.ofText word)
  paths.foldlM fillPath (.empty home)

/-- The variables of the settings that are set. -/
def fillEnvironment : IO (List (String × String)) := do
  let names := Settings.names.map fun name => (Settings.variableStem ++ name).toUpper
  names.filterMapM fun name => do
    return (← IO.getEnv name).map fun value => (name, value)

/-- Runs a command line, and gives the code that the program ends with. -/
def runProgram (words : List String) : IO UInt32 := do
  let surroundings : Surroundings := ⟨← fillFiles words, ← fillEnvironment⟩
  match surroundings.run words with
  | .error error =>
    -- What answers a question is printed where answers go.
    let out ← if error.isAnswer then IO.getStdout else IO.getStderr
    out.putStr error.message
    return UInt32.ofNat error.exitCode
  | .ok report =>
    for (place, content) in report.files.files do
      unless surroundings.files.files.any fun file => file.1 == place && file.2 == content do
        IO.FS.writeBinFile (FilePath.toText ⟨true, place⟩) content
    (← IO.getStdout).putStr report.output
    return 0

end Flowchart

def main (words : List String) : IO UInt32 := Flowchart.runProgram words
