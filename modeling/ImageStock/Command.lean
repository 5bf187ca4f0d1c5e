import ImageStock.SystemError
import ImageStock.Text.Quoted

/-!
Commands of the operating system, and what becomes of them.
-/

namespace ImageStock

/-- A program with its arguments. What an audible command writes goes where the output of the whole
run goes, and what another writes is kept for whoever started it. -/
structure Command where
  program : String
  arguments : List String
  audible : Bool
  deriving DecidableEq, Repr

/-- How a process ended. Of the number that it exits with the system keeps the lowest eight bits. -/
inductive Status where
  | exited (code : Fin 256)
  | signalled (signal : Nat)
  deriving DecidableEq, Repr

def processStatus (code : Int) : Status := .exited ⟨(code % 256).toNat, by omega⟩

structure Ending where
  status : Status
  output : List UInt8
  errors : List UInt8
  deriving DecidableEq, Repr

namespace Status

def success (s : Status) : Bool := s == exited 0

def code? : Status → Option Int
  | exited code => some code.val
  | signalled _ => none

def signalNames : List String := [
  "SIGHUP", "SIGINT", "SIGQUIT", "SIGILL", "SIGTRAP", "SIGABRT", "SIGBUS", "SIGFPE", "SIGKILL",
  "SIGUSR1", "SIGSEGV", "SIGUSR2", "SIGPIPE", "SIGALRM", "SIGTERM", "SIGSTKFLT", "SIGCHLD",
  "SIGCONT", "SIGSTOP", "SIGTSTP", "SIGTTIN", "SIGTTOU", "SIGURG", "SIGXCPU", "SIGXFSZ",
  "SIGVTALRM", "SIGPROF", "SIGWINCH", "SIGIO", "SIGPWR", "SIGSYS"]

def message : Status → String
  | exited code => s!"exit status: {code}"
  | signalled signal =>
    match signalNames[signal - 1]? with
    | some name => s!"signal: {signal} ({name})"
    | none => s!"signal: {signal}"

end Status

namespace Command

def words (c : Command) : List String := c.program :: c.arguments

def showWord (word : String) : String :=
  Text.quoted (if word.toList.contains '\x00' then "<string-with-nul>" else word)

def message (c : Command) : String := " ".intercalate (c.words.map showWord)

end Command

end ImageStock
