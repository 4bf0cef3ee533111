import GrammarServer.CommandLine
import GrammarServer.Protocol.Frame

/-!
# The program

Serves one editor over standard input and output until it sends `exit` or closes the
input.  Everything that is decided is decided by pure functions; here bytes are read and
written.  The program reaches no other programs, so every engine call fails.
-/

namespace GrammarServer.Main

open Protocol

/-- Read the lines of a header up to the empty line that ends it.  Nothing is read when
the input has ended. -/
partial def readHeader (input : IO.FS.Stream) (lines : List String) :
    IO (Option (List String)) := do
  let line ← input.getLine
  if line.isEmpty then return none
  else if Text.isAllBlank line then return some lines.reverse
  else readHeader input (line :: lines)

/-- Read a number of bytes, or fewer if the input ends before. -/
partial def readBody (input : IO.FS.Stream) (length : Nat) (bytes : ByteArray) :
    IO ByteArray := do
  if length ≤ bytes.size then return bytes
  let more ← input.read (USize.ofNat (length - bytes.size))
  if more.isEmpty then return bytes
  else readBody input length (bytes ++ more)

/-- Take frame after frame. -/
partial def serve (factory : EngineFactory) (input output : IO.FS.Stream)
    (connection : Connection) : IO Unit := do
  match ← readHeader input [] with
  | none => return
  | some header =>
    match contentLength? header with
    | none => serve factory input output connection
    | some length =>
      let body ← readBody input length .empty
      let (next, reaction) := connection.receiveBody factory body.toList
      for text in reaction.frames do
        output.putStr text
      output.flush
      if next.phase = .exited then return
      else serve factory input output next

/-- Append a line to the log, if there is one. -/
def log (settings : Settings) (line : String) : IO Unit := do
  match settings.logPath with
  | none => return
  | some path =>
    let file ← IO.FS.Handle.mk path .append
    file.putStrLn line

/-- Run the server as the arguments and the environment say; the exit code. -/
def run (arguments : List String) : IO UInt32 := do
  match CommandLine.ofArguments arguments with
  | .error problem =>
    (← IO.getStderr).putStr problem.message
    return 2
  | .ok .help =>
    (← IO.getStdout).putStr CommandLine.helpText
    return 0
  | .ok .version =>
    (← IO.getStdout).putStr CommandLine.versionText
    return 0
  | .ok (.serve source) =>
    let settings := Settings.resolve source
      ⟨← IO.getEnv logVariable, ← IO.getEnv engineVariable⟩
    let factory : EngineFactory := fun root =>
      (CommandEngine.ofCommand .bare settings.engineCommand root).toEngine .bare
    log settings ("Starting collie-lsp server (engine: " ++ settings.engineCommand ++ ")")
    serve factory (← IO.getStdin) (← IO.getStdout) {}
    log settings "collie-lsp server stopped"
    return 0

end GrammarServer.Main

/-- The entry point of the program. -/
def main (arguments : List String) : IO UInt32 :=
  GrammarServer.Main.run arguments
