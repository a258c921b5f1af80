/-
# Texts of the command line

The usage text, and what is said about arguments that are refused.
-/

import LineMachine.CommandLine.Options

namespace LineMachine
namespace CommandLine

/-- The name of the program. -/
def programName : Text := "jada".toList

/-- The usage text, line by line. -/
def usageLines : List String := [
  "Usage: jada [--corpus <corpus>] [--script <script>] [--demo] [--prompt <prompt>] [-v]",
  "",
  "Run J-Ada lines through the learning virtual machine.",
  "",
  "Options:",
  "  --corpus          plain-text language corpus loaded as the VM's language data.",
  "  --script          process every line of this file and exit instead of starting",
  "                    the prompt.",
  "  --demo            process the built-in sample lines before anything else.",
  "  --prompt          prompt shown by the interactive session.",
  "  -v, --verbose     log at debug level unless JADA_LOG says otherwise.",
  "  --help, help      display usage information",
  ""]

/-- The usage text. -/
def usage : Text := usageLines.flatMap fun line => line.toList ++ ['\n']

/-- What is told to the user whose arguments are refused. -/
def Refusal.report (r : Refusal) : Text :=
  r.message ++ "\nRun ".toList ++ programName ++ " --help for more information.\n".toList

/-- The prompt where none is given. -/
def standardPrompt : Text := "J-Ada> ".toList

/-- The prompt in force. -/
def Options.promptText (o : Options) : Text := o.prompt.getD standardPrompt

end CommandLine
end LineMachine
