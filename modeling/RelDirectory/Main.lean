import RelDirectory.Command
import Std.Time

/-!
# The command line

Reads the files that a command asks for, runs it, and prints what it gives.  There is no database
client here, so a command that needs one finds its server unreachable.
-/
set_option autoImplicit false
namespace RelDirectory

def FileFault.ofIO (e : IO.Error) : FileFault :=
  match e with
  | .noFileOrDirectory .. => .notFound
  | .inappropriateType _ 21 _ => .isDirectory
  | .inappropriateType _ 20 _ => .notDirectory
  | e => .other e.toString

/-- What reading each of some paths gave. -/
structure Readings where
  found : List (String × Except FileFault (List UInt8))

namespace Readings

/-- A path that was not read is not there. -/
def reader (r : Readings) : Reader := fun path =>
  match r.found.find? fun f => f.1 == path with
  | some f => f.2
  | none => .error .notFound

def add (r : Readings) (path : String) : IO Readings := do
  let content ← try
      let bytes ← IO.FS.readBinFile path
      pure (Except.ok bytes.data.toList)
    catch e => pure (Except.error (FileFault.ofIO e))
  pure ⟨r.found ++ [(path, content)]⟩

/-- Reads the settings of a command and then the files that it needs with them. -/
def ofOptions (o : Options) : IO Readings := do
  let settings ← Readings.add ⟨[]⟩ o.config
  match Settings.load settings.reader o.config with
  | .error _ => pure settings
  | .ok s => (Command.filesRead s o.command).foldlM Readings.add settings

end Readings

/-- Whether a file can be opened to add to it. -/
def tryLog (path : String) : IO (Except FileFault Unit) := do
  try
    let _ ← IO.FS.Handle.mk path .append
    pure (.ok ())
  catch e => pure (.error (FileFault.ofIO e))

def surroundingsOf (o : Options) : IO Surroundings := do
  let log : Except FileFault Unit ← match o.diagnosticLog with
    | some path => tryLog path
    | none => pure (.ok ())
  let readings ← match log with
    | .ok () => Readings.ofOptions o
    | .error _ => pure ⟨[]⟩
  pure ⟨readings.reader, fun _ => log, .unreachable, 0⟩

def addToLog (path : String) (log : Log) : IO Unit := do
  let file ← IO.FS.Handle.mk path .append
  for event in log do
    let now ← Std.Time.PlainDateTime.now
    file.putStrLn (now.format "uuuu-MM-dd HH:mm:ss.SSS" ++ " " ++ event.line)

/-- Prints how a command ended and gives its exit code. -/
def Ending.deliver (e : Ending) : IO UInt32 := do
  IO.print e.output
  match e.failure with
  | some text => IO.eprintln text
  | none => pure ()
  match e.logFile with
  | some path => addToLog path e.log
  | none => pure ()
  pure e.code.toUInt32

end RelDirectory

open RelDirectory in
def main (args : List String) : IO UInt32 := do
  let here : Surroundings ← match Options.read args with
    | .ok o => surroundingsOf o
    | .error _ => pure ⟨fun _ => .error .notFound, fun _ => .ok (), .unreachable, 0⟩
  (Command.run here args).deliver
