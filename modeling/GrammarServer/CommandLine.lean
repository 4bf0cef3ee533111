import GrammarServer.Settings

/-!
# The command line

What the arguments of the server ask for: to serve with some settings, to print a help
text or to print the version.
-/

namespace GrammarServer

/-- The options that take a value. -/
inductive ValueOption where
  | logFile
  | engine
deriving DecidableEq, Repr

/-- How an option is written. -/
def ValueOption.flag : ValueOption → String
  | .logFile => "--log-file"
  | .engine => "--engine"

/-- An option together with the name of its value. -/
def ValueOption.usage : ValueOption → String
  | .logFile => "--log-file <LOG_FILE>"
  | .engine => "--engine <ENGINE>"

/-- The value of an option in the settings read so far. -/
def ValueOption.current (option : ValueOption) (source : Settings.Source) : Option String :=
  match option with
  | .logFile => source.logPath
  | .engine => source.engineCommand

/-- The settings with the value of an option. -/
def ValueOption.store (option : ValueOption) (source : Settings.Source) (value : String) :
    Settings.Source :=
  match option with
  | .logFile => { source with logPath := some value }
  | .engine => { source with engineCommand := some value }

/-- The option that is written in some way. -/
def ValueOption.ofFlag? (flag : String) : Option ValueOption :=
  [ValueOption.logFile, .engine].find? (·.flag == flag)

/-- What a command line asks for. -/
inductive CommandLine where
  | serve (source : Settings.Source)
  | help
  | version
deriving DecidableEq, Repr

/-- Why a command line cannot be read. -/
inductive CommandLineError where
  | unexpected (argument : String)
  | missingValue (option : ValueOption)
  | repeated (option : ValueOption)
deriving DecidableEq, Repr

namespace CommandLine

/-- The help text. -/
def helpText : String :=
  "Language server for yacc/bison grammar files (stdio)\n\n" ++
  "Usage: collie-lsp [OPTIONS]\n\n" ++
  "Options:\n" ++
  "      --log-file <LOG_FILE>  Append server logs to this file " ++
  "(defaults to $COLLIE_LSP_LOG)\n" ++
  "      --engine <ENGINE>      Grammar engine command " ++
  "(defaults to $COLLIE_ENGINE, then `collie`)\n" ++
  "  -h, --help                 Print help\n" ++
  "  -V, --version              Print version\n"

/-- The text that names the version. -/
def versionText : String := "collie-lsp 0.3.0\n"

/-- An option and its value written in one argument, with an equals sign between. -/
def joined? (argument : String) : Option (ValueOption × String) :=
  match argument.toList.span (· != '=') with
  | (flag, '=' :: value) =>
    (ValueOption.ofFlag? (String.ofList flag)).map fun option => (option, String.ofList value)
  | _ => none

/-- Take over the value of an option, which may be given once. -/
def add (source : Settings.Source) (option : ValueOption) (value : String) :
    Except CommandLineError Settings.Source :=
  if (option.current source).isSome then .error (.repeated option)
  else .ok (option.store source value)

/-- Whether an argument can be the value of the option before it. -/
def isValue (argument : String) : Bool :=
  argument == "-" || !argument.startsWith "-"

/-- The option at the front of a command line, its value, and the arguments after both. -/
def next (argument : String) (rest : List String) :
    Except CommandLineError (ValueOption × String × List String) :=
  match joined? argument, ValueOption.ofFlag? argument, rest with
  | some (option, value), _, _ => .ok (option, value, rest)
  | none, none, _ => .error (.unexpected argument)
  | none, some option, [] => .error (.missingValue option)
  | none, some option, value :: others =>
    if isValue value then .ok (option, value, others) else .error (.missingValue option)

/-- An option takes at most one argument more. -/
theorem length_le_of_next {argument value : String} {rest others : List String}
    {option : ValueOption} (h : next argument rest = .ok (option, value, others)) :
    others.length ≤ rest.length := by
  unfold next at h
  split at h
  · simp only [Except.ok.injEq, Prod.mk.injEq] at h
    simp [h]
  · simp at h
  · simp at h
  · split at h
    · simp only [Except.ok.injEq, Prod.mk.injEq] at h
      simp [h]
    · simp at h

/-- Read the arguments from left to right. -/
def read (source : Settings.Source) (arguments : List String) :
    Except CommandLineError CommandLine :=
  match arguments with
  | [] => .ok (.serve source)
  | argument :: rest =>
    if argument = "--help" ∨ argument = "-h" then .ok .help
    else if argument = "--version" ∨ argument = "-V" then .ok .version
    else
      match found : next argument rest with
      | .error problem => .error problem
      | .ok (option, value, others) =>
        have : others.length ≤ rest.length := length_le_of_next found
        match add source option value with
        | .error problem => .error problem
        | .ok added => read added others
termination_by arguments.length

/-- What the arguments of the server ask for. -/
def ofArguments (arguments : List String) : Except CommandLineError CommandLine :=
  read {} arguments

end CommandLine

/-- An error of the command line in words. -/
def CommandLineError.message : CommandLineError → String
  | .unexpected argument =>
    "error: unexpected argument '" ++ argument ++ "' found\n\n" ++
      "Usage: collie-lsp [OPTIONS]\n\nFor more information, try '--help'.\n"
  | .missingValue option =>
    "error: a value is required for '" ++ option.usage ++ "' but none was supplied\n\n" ++
      "For more information, try '--help'.\n"
  | .repeated option =>
    "error: the argument '" ++ option.usage ++ "' cannot be used multiple times\n\n" ++
      "Usage: collie-lsp [OPTIONS]\n\nFor more information, try '--help'.\n"

end GrammarServer
