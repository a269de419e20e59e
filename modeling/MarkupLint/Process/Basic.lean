import MarkupLint.SystemFault
import MarkupLint.Text.Utf8
/-!
# Processes

What is needed to run a program, and everything that can be observed of a run: whether it started,
how it ended, what it wrote, and how far its input could be fed to it.
-/

namespace MarkupLint.Process

/-- A program with its arguments. -/
structure Command where
  program : String
  arguments : List String
deriving DecidableEq, Repr

/-- How a process ended. -/
inductive ExitStatus where
  | code (value : Nat)
  | signal (number : Nat)
deriving DecidableEq, Repr

namespace ExitStatus

/-- The signals that end a process and their names. -/
def signalNames : List (Nat × String) :=
  [(1, "SIGHUP"), (2, "SIGINT"), (3, "SIGQUIT"), (4, "SIGILL"), (5, "SIGTRAP"), (6, "SIGABRT"),
    (7, "SIGBUS"), (8, "SIGFPE"), (9, "SIGKILL"), (10, "SIGUSR1"), (11, "SIGSEGV"),
    (12, "SIGUSR2"), (13, "SIGPIPE"), (14, "SIGALRM"), (15, "SIGTERM"), (16, "SIGSTKFLT"),
    (24, "SIGXCPU"), (25, "SIGXFSZ"), (26, "SIGVTALRM"), (27, "SIGPROF"), (29, "SIGIO"),
    (30, "SIGPWR"), (31, "SIGSYS")]

/-- Whether the process ended with code zero. -/
def isSuccess : ExitStatus → Bool
  | .code 0 => true
  | _ => false

/-- The wording of a status. -/
def message : ExitStatus → String
  | .code value => "exit status: " ++ toString value
  | .signal number =>
      match signalNames.lookup number with
      | some name => "signal: " ++ toString number ++ " (" ++ name ++ ")"
      | none => "signal: " ++ toString number

end ExitStatus

/-- What became of feeding the input: all of it was taken, or writing it failed, with a broken pipe
if the process closed its end, or the writer crashed. -/
inductive Feeding where
  | complete
  | failed (fault : SystemFault)
  | crashed
deriving DecidableEq, Repr

/-- What can be observed of a finished process. -/
structure Finished where
  status : ExitStatus
  output : Octets
  errors : Octets
  feeding : Feeding
deriving DecidableEq, Repr

/-- What can be observed of running a command. -/
inductive Outcome where
  | notStarted (fault : SystemFault)
  | finished (run : Finished)
deriving DecidableEq, Repr

end MarkupLint.Process
