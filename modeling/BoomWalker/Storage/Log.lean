/-
Levels of the log, and opening it.
-/
import BoomWalker.Storage.Fault

namespace BoomWalker

/-- How much is logged, from nothing to everything. -/
inductive LogLevel where
  | off
  | error
  | warn
  | info
  | debug
  | trace
deriving DecidableEq, Repr, Inhabited

namespace LogLevel

def all : List LogLevel := [off, error, warn, info, debug, trace]

def name : LogLevel → String
  | off => "OFF"
  | error => "ERROR"
  | warn => "WARN"
  | info => "INFO"
  | debug => "DEBUG"
  | trace => "TRACE"

def rank : LogLevel → Nat
  | off => 0
  | error => 1
  | warn => 2
  | info => 3
  | debug => 4
  | trace => 5

/-- The level of a name in letters of any case. -/
def ofName? (s : String) : Option LogLevel := all.find? (·.name == s.toUpper)

end LogLevel

/-- Why the log could not be opened. -/
inductive LogError where
  | levelTooLow (found : LogLevel)
  | file (f : FileFault)
deriving DecidableEq, Repr

/-- The name of a kind of error. -/
def LogError.name : LogError → String
  | levelTooLow _ => "InvalidMinLogLevel"
  | file _ => "LogFileInitError"

def LogError.message : LogError → String
  | levelTooLow found => "Expected a log level less than `INFO`, found `" ++ found.name ++ "`"
  | file f => "Error initialising the log file: " ++ f.message

/-- Open the log file, which records at least the level of information, given what goes wrong with
the file. -/
def openLog (level : LogLevel) (fault : Option FileFault) : Except LogError Unit :=
  if level.rank < LogLevel.info.rank then .error (.levelTooLow level)
  else
    match fault with
    | some f => .error (.file f)
    | none => .ok ()

end BoomWalker
