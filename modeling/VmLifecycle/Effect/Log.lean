import VmLifecycle.Duration

/-!
# Log events

What operations report about their progress, beside their result: a level, a
message and named values.
-/

namespace VmLifecycle

inductive LogLevel where
  | error
  | warn
  | info
  | debug
  | trace
deriving DecidableEq, Repr

def LogLevel.toText : LogLevel → String
  | .error => "error"
  | .warn => "warn"
  | .info => "info"
  | .debug => "debug"
  | .trace => "trace"

inductive LogValue where
  | number (n : Nat)
  | text (s : String)
  | flag (b : Bool)
  /-- A port that the host had free at the time. -/
  | freshPort (port : UInt16)
  /-- The time since the operation began, as the log measures it. -/
  | elapsed
deriving DecidableEq, Repr

structure LogEvent where
  level : LogLevel
  message : String
  fields : List (String × LogValue)
deriving DecidableEq, Repr

namespace LogEvent

def error (message : String) (fields : List (String × LogValue)) : LogEvent :=
  ⟨.error, message, fields⟩

def warn (message : String) (fields : List (String × LogValue)) : LogEvent :=
  ⟨.warn, message, fields⟩

def info (message : String) (fields : List (String × LogValue)) : LogEvent :=
  ⟨.info, message, fields⟩

def debug (message : String) (fields : List (String × LogValue)) : LogEvent :=
  ⟨.debug, message, fields⟩

def trace (message : String) (fields : List (String × LogValue)) : LogEvent :=
  ⟨.trace, message, fields⟩

end LogEvent

end VmLifecycle
