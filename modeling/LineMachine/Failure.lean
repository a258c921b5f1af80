/-
# Faults and failures

A **fault** is why bytes cannot be had or read: the file system refuses the
path, the device fails, or the bytes are no text.  A **failure** is what ends a
run, with the fault behind it.  A failure is reported as a chain of messages,
the outermost first.
-/

import LineMachine.Text.Basic

namespace LineMachine

/-- Why bytes cannot be had, or not be read as text. -/
inductive Fault where
  /-- Nothing has the name. -/
  | notFound
  /-- A directory is needed where there is something else. -/
  | notDirectory
  /-- A directory has no bytes. -/
  | isDirectory
  /-- The path, or a name in it, is too long. -/
  | nameTooLong
  /-- A name cannot hold the character with number zero. -/
  | nulInName
  /-- The bytes are no well-formed text. -/
  | illFormed
  /-- The device gave up, with a message of its own. -/
  | device (message : Text)
deriving DecidableEq, Repr

/-- The wording of a fault. -/
def Fault.message : Fault → Text
  | .notFound => "No such file or directory (os error 2)".toList
  | .notDirectory => "Not a directory (os error 20)".toList
  | .isDirectory => "Is a directory (os error 21)".toList
  | .nameTooLong => "File name too long (os error 36)".toList
  | .nulInName => "file name contained an unexpected NUL byte".toList
  | .illFormed => "stream did not contain valid UTF-8".toList
  | .device message => message

/-- What ends a run. -/
inductive Failure where
  /-- The line with this number, counted from one, cannot be read. -/
  | unreadableLine (number : Nat) (cause : Fault)
  /-- The writer takes no more bytes. -/
  | writerFull
  /-- The writer cannot bring its bytes home. -/
  | unflushed (message : Text)
  /-- The corpus cannot be loaded. -/
  | unreadableCorpus (path : Text) (cause : Fault)
  /-- The script cannot be opened. -/
  | unopenedScript (path : Text) (cause : Fault)
  /-- The session's input cannot be read. -/
  | unreadableInput (cause : Fault)
deriving DecidableEq, Repr

namespace Failure

/-- The messages of a failure, from the outermost to the cause of all.  What
goes wrong with a session's input is told twice, once by the line editor and
once by the stream under it. -/
def chain : Failure → List Text
  | .unreadableLine n cause => ["failed to read input line ".toList ++ Text.ofNat n, cause.message]
  | .writerFull => ["failed to write whole buffer".toList]
  | .unflushed message => [message]
  | .unreadableCorpus path cause => ["failed to read corpus: ".toList ++ path, cause.message]
  | .unopenedScript path cause => ["failed to open script: ".toList ++ path, cause.message]
  | .unreadableInput cause => ["failed to read input".toList, cause.message, cause.message]

/-- The causes as lines of a report: indented, and numbered from zero if there
is more than one. -/
def causeLines : List Text → List Text
  | [] => []
  | [cause] => ["    ".toList ++ cause]
  | causes => causes.zipIdx.map fun (cause, i) =>
      "    ".toList ++ Text.ofNat i ++ ": ".toList ++ cause

/-- The report of a chain of messages: the first, and the others as its causes. -/
def reportChain : List Text → Text
  | [] => []
  | [message] => "Error: ".toList ++ message ++ ['\n']
  | message :: causes =>
    "Error: ".toList ++ message ++ "\n\nCaused by:\n".toList ++
      (causeLines causes).flatMap (· ++ ['\n'])

/-- What is told to the user in the end. -/
def report (f : Failure) : Text := reportChain f.chain

end Failure
end LineMachine
