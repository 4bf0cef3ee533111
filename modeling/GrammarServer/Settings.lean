import GrammarServer.Engine.Command

/-!
# Settings of the server

Where the server logs and which engine it runs.  The command line wins over the
environment.
-/

namespace GrammarServer

/-- The variable of the environment that names the log file. -/
def logVariable : String := "COLLIE_LSP_LOG"

/-- The variable of the environment that names the engine command. -/
def engineVariable : String := "COLLIE_ENGINE"

/-- Settings as they are given in one place. -/
structure Settings.Source where
  logPath : Option String := none
  engineCommand : Option String := none
deriving DecidableEq, Repr

/-- The settings of a server. -/
structure Settings where
  logPath : Option String
  engineCommand : String
deriving DecidableEq, Repr

/-- A text that does not consist of blanks. -/
def nonBlank (value : Option String) : Option String :=
  value.filter fun text => !Text.isAllBlank text

/-- The settings that the command line and the environment give.  A blank log path of
the environment counts as none; a blank command from either gives the default. -/
def Settings.resolve (commandLine environment : Settings.Source) : Settings where
  logPath := commandLine.logPath.or (nonBlank environment.logPath)
  engineCommand :=
    (nonBlank (commandLine.engineCommand.or environment.engineCommand)).getD defaultCommand

end GrammarServer
