/-
# A machine for lines of text

A line is printed, binds a name to a value, or is answered with a fixed text;
the last answer is remembered.  The library runs lines one at a time
(`Machine`), from a file (`Batch`), through a pipe (`Session.piped`) and at a
keyboard (`Keyboard`), and holds the command line around them (`Program`).
-/

import LineMachine.Activity
import LineMachine.Batch
import LineMachine.Bindings.Basic
import LineMachine.Bindings.Pool
import LineMachine.Command
import LineMachine.CommandLine.Options
import LineMachine.CommandLine.Usage
import LineMachine.Corpus
import LineMachine.Demo
import LineMachine.Failure
import LineMachine.FileSystem
import LineMachine.Interleaving
import LineMachine.Log.Directive
import LineMachine.Log.Event
import LineMachine.Log.Filter
import LineMachine.Log.Pattern.Atom
import LineMachine.Log.Pattern.Basic
import LineMachine.Log.Pattern.Set
import LineMachine.Machine
import LineMachine.Main
import LineMachine.Program
import LineMachine.Proofs.Batch.Answered
import LineMachine.Proofs.Batch.BlankLines
import LineMachine.Proofs.Batch.Counted
import LineMachine.Proofs.Batch.Executed
import LineMachine.Proofs.Batch.IllFormed
import LineMachine.Proofs.Batch.Independence
import LineMachine.Proofs.Batch.Joined
import LineMachine.Proofs.Batch.Padding
import LineMachine.Proofs.Batch.Replay
import LineMachine.Proofs.Batch.Room
import LineMachine.Proofs.Batch.Torn
import LineMachine.Proofs.Bindings.Pool
import LineMachine.Proofs.Command.Definition
import LineMachine.Proofs.Command.Keywords
import LineMachine.Proofs.Command.Response
import LineMachine.Proofs.Command.Spacing
import LineMachine.Proofs.Log.Heard
import LineMachine.Proofs.Machine.After
import LineMachine.Proofs.Machine.History
import LineMachine.Proofs.Machine.Isolated
import LineMachine.Proofs.Machine.Learned
import LineMachine.Proofs.Machine.Memory
import LineMachine.Proofs.Machine.Reachable
import LineMachine.Proofs.Machine.Redundancy
import LineMachine.Proofs.Program.Logged
import LineMachine.Proofs.Program.Piped
import LineMachine.Proofs.Program.Script
import LineMachine.Proofs.Program.Stages
import LineMachine.Proofs.Session.Editing
import LineMachine.Proofs.Session.Recalled
import LineMachine.Proofs.Session.Sitting
import LineMachine.Proofs.Session.Talk
import LineMachine.Proofs.Source.OfText
import LineMachine.Proofs.Source.Reading
import LineMachine.Session.Backspace
import LineMachine.Session.History
import LineMachine.Session.Keyboard
import LineMachine.Session.Line
import LineMachine.Session.Piped
import LineMachine.Source
import LineMachine.Text.Alphanumeric
import LineMachine.Text.Basic
import LineMachine.Text.Blank
import LineMachine.Text.Cluster.Basic
import LineMachine.Text.Cluster.Class
import LineMachine.Text.Cut
import LineMachine.Text.Lines
import LineMachine.Text.Utf8
