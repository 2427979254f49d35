import LobbyPlacement.Text.LowerCase

/-!
# The journal

What a service tells about its own life, line by line. Each line has a level, and a threshold lets
through the levels up to it.
-/

namespace LobbyPlacement

inductive LogLevel
  | error
  | warn
  | info
  | debug
  | trace
deriving DecidableEq, Repr

namespace LogLevel

def all : List LogLevel := [error, warn, info, debug, trace]

def name : LogLevel → String
  | error => "error"
  | warn => "warn"
  | info => "info"
  | debug => "debug"
  | trace => "trace"

def label : LogLevel → String
  | error => "ERROR"
  | warn => "WARN"
  | info => "INFO"
  | debug => "DEBUG"
  | trace => "TRACE"

def ofText? (s : String) : Option LogLevel :=
  all.find? fun level => level.name = Text.lower s

/-- The graver a level, the lower. -/
def rank : LogLevel → Nat
  | error => 1
  | warn => 2
  | info => 3
  | debug => 4
  | trace => 5

end LogLevel

structure JournalLine where
  level : LogLevel
  text : String
deriving DecidableEq, Repr

abbrev Journal := List JournalLine

namespace JournalLine

def error (text : String) : JournalLine := ⟨.error, text⟩
def warn (text : String) : JournalLine := ⟨.warn, text⟩
def info (text : String) : JournalLine := ⟨.info, text⟩
def debug (text : String) : JournalLine := ⟨.debug, text⟩

end JournalLine

end LobbyPlacement
