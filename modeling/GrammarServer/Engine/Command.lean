import GrammarServer.Engine.Basic
import GrammarServer.Text.Blank
import GrammarServer.Text.Split

/-!
# Engines run by a command

An engine that is another program.  Every call runs the program once, with the source
as its input; parsing and linting answer in JSON, formatting and correcting with the new
source.  What the program does is left to the machine that runs it.
-/

namespace GrammarServer

open Json

/-! ## Running programs -/

/-- A program to run, its arguments and its input. -/
structure Invocation where
  program : String
  arguments : List String
  input : String
deriving DecidableEq, Repr

/-- How a program ended. -/
inductive ExitStatus where
  | code (n : Nat)
  | signal (n : Nat)
deriving DecidableEq, Repr

/-- What a program that has ended left behind. -/
structure ProgramOutput where
  status : ExitStatus
  output : List UInt8
  errors : List UInt8
deriving DecidableEq, Repr

/-- Why a program could not be started. -/
inductive LaunchError where
  /-- There is no such program. -/
  | missing
  /-- The program's name or an argument holds the character that ends texts. -/
  | nulInText
  /-- The program's name is too long to be looked for. -/
  | nameTooLong
  /-- The program's name is that of a directory. -/
  | directory
deriving DecidableEq, Repr

/-- A launch error in words. -/
def LaunchError.message : LaunchError → String
  | .missing => "No such file or directory (os error 2)"
  | .nulInText => "nul byte found in provided data"
  | .nameTooLong => "File name too long (os error 36)"
  | .directory => "Permission denied (os error 13)"

/-- The greatest number of bytes of a name in a path. -/
def maxNameBytes : Nat := 255

/-- What forbids an invocation on every machine.  A path without names is that of a
directory. -/
def Invocation.obstacle? (invocation : Invocation) : Option LaunchError :=
  let names := (Text.splitAt (· == '/') invocation.program.toList).map String.ofList
  if (invocation.program :: invocation.arguments).any (·.toList.contains '\x00') then
    some .nulInText
  else
    match names.find? fun name => !(["", ".", ".."].contains name) with
    | none => some .directory
    | some name => if maxNameBytes < name.utf8ByteSize then some .nameTooLong else none

/-- What an engine can reach of the machine it runs on. -/
structure Machine where
  /-- Whether a path names a regular file. -/
  isFile : String → Bool
  /-- Run a program; there is no output if it does not exist. -/
  run : Invocation → Option ProgramOutput

/-- Run a program on a machine, if it can be started. -/
def Machine.launch (machine : Machine) (invocation : Invocation) :
    Except LaunchError ProgramOutput :=
  match invocation.obstacle?, machine.run invocation with
  | some obstacle, _ => .error obstacle
  | none, some output => .ok output
  | none, none => .error .missing

/-- A machine with neither files nor programs. -/
def Machine.bare : Machine := ⟨fun _ => false, fun _ => none⟩

/-- Whether a program ended successfully. -/
def ExitStatus.isSuccess : ExitStatus → Bool
  | .code 0 => true
  | _ => false

/-- The names of the signals, from number 1 on. -/
def signalNames : List String :=
  ["SIGHUP", "SIGINT", "SIGQUIT", "SIGILL", "SIGTRAP", "SIGABRT", "SIGBUS", "SIGFPE",
    "SIGKILL", "SIGUSR1", "SIGSEGV", "SIGUSR2", "SIGPIPE", "SIGALRM", "SIGTERM", "SIGSTKFLT",
    "SIGCHLD", "SIGCONT", "SIGSTOP", "SIGTSTP", "SIGTTIN", "SIGTTOU", "SIGURG", "SIGXCPU",
    "SIGXFSZ", "SIGVTALRM", "SIGPROF", "SIGWINCH", "SIGIO", "SIGPWR", "SIGSYS"]

/-- An exit status in words. -/
def ExitStatus.text : ExitStatus → String
  | .code n => "exit status: " ++ toString n
  | .signal n =>
    "signal: " ++ toString n ++
      match signalNames[n - 1]? with
      | some name => " (" ++ name ++ ")"
      | none => ""

/-! ## Failures -/

/-- Why a call of a command engine failed. -/
inductive CommandError where
  /-- The program could not be started. -/
  | notStarted (program : String) (cause : LaunchError)
  /-- The program ended without success; its error output without blanks at the ends. -/
  | failed (status : ExitStatus) (errors : String)
  /-- The answer is not what was asked for. -/
  | undecodable (error : DecodeError)
  /-- The answer is not UTF-8. -/
  | notUtf8
deriving DecidableEq, Repr

/-- A failure in words. -/
def CommandError.message : CommandError → String
  | .notStarted program cause =>
    "Failed to spawn grammar engine `" ++ program ++ "`: " ++ cause.message
  | .failed status errors => "Grammar engine exited with " ++ status.text ++ ": " ++ errors
  | .undecodable error =>
    "Failed to decode grammar engine output: " ++ (error.message?.getD "unexpected output")
  | .notUtf8 => "Grammar engine produced non UTF-8 output"

/-! ## Command engines -/

/-- The program that is run when no command is given. -/
def defaultCommand : String := "collie"

/-- The name of the file with the engine's settings for a workspace. -/
def configFileName : String := ".collie.yml"

/-- The path of the settings file of a workspace, if it is a regular file. -/
def Machine.findConfig? (machine : Machine) (root : String) : Option String :=
  let path := if root = "" ∨ root.endsWith "/" then root ++ configFileName
    else root ++ "/" ++ configFileName
  if machine.isFile path then some path else none

/-- An engine run by a command. -/
structure CommandEngine where
  program : String
  arguments : List String
  configPath : Option String
deriving DecidableEq, Repr

/-- The engine for a command line, which may hold arguments of its own, in a workspace. -/
def CommandEngine.ofCommand (machine : Machine) (command : String) (root : Option String) :
    CommandEngine :=
  let configPath := root.bind machine.findConfig?
  match Text.words command with
  | [] => ⟨defaultCommand, [], configPath⟩
  | program :: arguments => ⟨program, arguments, configPath⟩

namespace CommandEngine

/-- What is run for a call. -/
def invocation (engine : CommandEngine) (call : Call) : Invocation where
  program := engine.program
  arguments := engine.arguments ++ [call.kind.name, "--stdin-filename", call.filename]
    ++ match engine.configPath with
      | some path => ["--config", path]
      | none => []
  input := call.source

/-- Run the program for a call. -/
def run (engine : CommandEngine) (machine : Machine) (call : Call) :
    Except CommandError ProgramOutput :=
  (machine.launch (engine.invocation call)).mapError (.notStarted engine.program)

/-- The failure of a program that ended without success. -/
def failure (output : ProgramOutput) : CommandError :=
  .failed output.status (Text.trim (Text.ofUtf8Lenient output.errors))

/-- Whether a program wrote nothing but ASCII white space. -/
def wroteNothing (output : ProgramOutput) : Bool :=
  output.output.all fun b => b == 0x20 || b == 0x09 || b == 0x0A || b == 0x0C || b == 0x0D

/-- Parse a source.  The answer counts only if the program succeeds. -/
def parse (engine : CommandEngine) (machine : Machine) (source filename : String) :
    Except CommandError Grammar := do
  let output ← engine.run machine ⟨.parse, source, filename⟩
  if output.status.isSuccess then (Grammar.ofBytes output.output).mapError .undecodable
  else .error (failure output)

/-- Lint a source.  Offenses may come with any exit status; without any answer the
status decides. -/
def lint (engine : CommandEngine) (machine : Machine) (source filename : String) :
    Except CommandError (List Offense) := do
  let output ← engine.run machine ⟨.lint, source, filename⟩
  if wroteNothing output then
    if output.status.isSuccess then .ok [] else .error (failure output)
  else (Offense.listOfBytes output.output).mapError .undecodable

/-- Format a source.  A program that does not succeed cannot format it. -/
def format (engine : CommandEngine) (machine : Machine) (source filename : String) :
    Except CommandError (Option String) := do
  let output ← engine.run machine ⟨.format, source, filename⟩
  if output.status.isSuccess then
    match Text.ofUtf8? output.output with
    | some text => .ok (some text)
    | none => .error .notUtf8
  else .ok none

/-- Correct a source.  Whenever that fails the source stays as it is. -/
def autocorrect (engine : CommandEngine) (machine : Machine) (source filename : String) :
    String :=
  match engine.run machine ⟨.autocorrect, source, filename⟩ with
  | .error _ => source
  | .ok output =>
    if output.status.isSuccess then (Text.ofUtf8? output.output).getD source else source

/-- The result of a call for the server, which does not look at the cause of a failure. -/
def callResult {α : Type} : Except CommandError α → CallResult α
  | .ok value => .ok value
  | .error _ => .failed

/-- A command engine on a machine as a grammar engine.  It keeps no memory of earlier
calls. -/
def toEngine (engine : CommandEngine) (machine : Machine) : Engine where
  parse _ source filename := callResult (engine.parse machine source filename)
  lint _ source filename := callResult (engine.lint machine source filename)
  format _ source filename := callResult (engine.format machine source filename)
  autocorrect _ source filename := .ok (engine.autocorrect machine source filename)

end CommandEngine

end GrammarServer
