/-
# Options of the command line

Arguments are read from left to right.  Three options take the next argument as
their value, whatever it looks like, and may be given once; three switches may
be repeated; nothing else is allowed.  `--help` or `help` asks for the usage
text, and no option may follow it.  After `--` every argument is one too many.
-/

import LineMachine.Text.Basic

namespace LineMachine
namespace CommandLine

/-- What the arguments ask for. -/
structure Options where
  corpus : Option Text := none
  script : Option Text := none
  demo : Bool := false
  prompt : Option Text := none
  verbose : Bool := false
deriving DecidableEq, Repr

/-- The options with a value. -/
inductive Valued where
  | corpus
  | script
  | prompt
deriving DecidableEq, Repr

/-- How a valued option is written. -/
def Valued.name : Valued → Text
  | .corpus => "--corpus".toList
  | .script => "--script".toList
  | .prompt => "--prompt".toList

/-- The valued option that an argument names. -/
def Valued.ofName? (arg : Text) : Option Valued :=
  [Valued.corpus, .script, .prompt].find? fun v => v.name = arg

/-- Every valued option is found by its name. -/
theorem Valued.ofName?_name (v : Valued) : Valued.ofName? v.name = some v := by
  cases v <;> decide

/-- The value that a valued option has. -/
def Options.value (o : Options) : Valued → Option Text
  | .corpus => o.corpus
  | .script => o.script
  | .prompt => o.prompt

/-- The options with a valued one given. -/
def Options.withValue (o : Options) (v : Valued) (value : Text) : Options :=
  match v with
  | .corpus => { o with corpus := some value }
  | .script => { o with script := some value }
  | .prompt => { o with prompt := some value }

/-- A valued option has the value it was last given, and the others keep theirs. -/
theorem Options.value_withValue (o : Options) (v w : Valued) (value : Text) :
    (o.withValue v value).value w = if w = v then some value else o.value w := by
  cases v <;> cases w <;> rfl

/-- The options with the switch given that an argument names, if it names one. -/
def Options.withSwitch? (o : Options) (arg : Text) : Option Options :=
  if arg = "--demo".toList then some { o with demo := true }
  else if arg = "-v".toList ∨ arg = "--verbose".toList then some { o with verbose := true }
  else none

/-- Why arguments are refused. -/
inductive Refusal where
  /-- The option stands at the end. -/
  | missingValue (option : Valued)
  /-- The option was given before. -/
  | duplicate (option : Valued) (value : Text)
  /-- There is no such option, or no room for an argument. -/
  | unrecognized (arg : Text)
  /-- An option follows the call for help. -/
  | trailing
deriving DecidableEq, Repr

/-- The wording of a refusal. -/
def Refusal.message : Refusal → Text
  | .missingValue v => "No value provided for option '".toList ++ v.name ++ "'.\n".toList
  | .duplicate v value =>
    "Error parsing option '".toList ++ v.name ++ "' with value '".toList ++ value ++
      "': duplicate values provided\n".toList
  | .unrecognized arg => "Unrecognized argument: ".toList ++ arg ++ ['\n']
  | .trailing => "Trailing arguments are not allowed after `help`.".toList

/-- What the command line is to do. -/
inductive Request where
  | help
  | run (options : Options)
deriving DecidableEq, Repr

/-- An argument that asks for help. -/
def asksHelp (arg : Text) : Bool := arg = "--help".toList || arg = "help".toList

/-- Reads the arguments after `--`: there is room for none. -/
def parseEnded (request : Request) : List Text → Except Refusal Request
  | [] => .ok request
  | arg :: _ => .error (.unrecognized arg)

/-- Reads the arguments after a call for help. -/
def parseHelp : List Text → Except Refusal Request
  | [] => .ok .help
  | arg :: args =>
    if asksHelp arg then parseHelp args
    else if arg = "--".toList then parseEnded .help args
    else if arg.head? = some '-' then .error .trailing
    else .error (.unrecognized arg)

/-- Reads the arguments from the options read so far. -/
def parseFrom (o : Options) : List Text → Except Refusal Request
  | [] => .ok (.run o)
  | arg :: args =>
    if asksHelp arg then parseHelp args
    else if arg = "--".toList then parseEnded (.run o) args
    else
      match Valued.ofName? arg, o.withSwitch? arg with
      | some v, _ =>
        match args with
        | [] => .error (.missingValue v)
        | value :: args =>
          if (o.value v).isSome then .error (.duplicate v value)
          else parseFrom (o.withValue v value) args
      | none, some o' => parseFrom o' args
      | none, none => .error (.unrecognized arg)

/-- Reads the arguments. -/
def parse (args : List Text) : Except Refusal Request := parseFrom {} args

end CommandLine
end LineMachine
