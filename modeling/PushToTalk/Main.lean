import PushToTalk.Startup

/-
  The program: reads the files that the command line names, sets the relay up and tells what
  happened.  Everything that is decided is decided in `Startup.run`.
-/

namespace PushToTalk.Main

/-- Copies a file into `d`, if there is one. -/
def copyFile (d : Disk) (p : Path) : IO Disk := do
  let bytes? ← (IO.FS.readBinFile p.text).toBaseIO
  match bytes? with
  | .error _ => return d
  | .ok bytes =>
    let above := (p.parent?.map d.makeDirectories).bind Except.toOption |>.getD d
    return ((above.write p bytes.toList).toOption).getD above

/-- The files that may hold the configuration. -/
def files (here : Path) (arguments : List String) : List Path :=
  match CommandLine.read arguments with
  | .ok a =>
    let p := (Path.ofText a.configName).under here
    p :: (Config.candidates p).map (·.1)
  | .error _ => []

/-- Tells what a run came to. -/
def report (run : Startup.Run) : IO UInt32 := do
  for message in run.messages do
    IO.println message
  match run.ending with
  | .shown text => IO.print text
  | .refused text => IO.eprint text
  | .failed reason => IO.eprintln ("Error: " ++ reason)
  | .served => pure ()
  return UInt32.ofNat run.ending.exitCode

end PushToTalk.Main

def main (arguments : List String) : IO UInt32 := do
  let here := PushToTalk.Path.ofText (← IO.currentDir).toString
  let disk ← (PushToTalk.Main.files here arguments).foldlM PushToTalk.Main.copyFile .blank
  PushToTalk.Main.report (PushToTalk.Startup.run disk here arguments)
