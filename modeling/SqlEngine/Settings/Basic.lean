import SqlEngine.Duration

/-!
# Settings

The settings of a process, which all of its engines share.
-/

namespace SqlEngine

/-- The settings of a process. -/
structure Settings where
  /-- How many requests can wait in front of an engine. -/
  channelCapacity : Nat := 64
  /-- The least important messages that are logged. -/
  logLevel : String := "info"
  /-- The longest time in milliseconds that a request may take where a connection string sets none;
  zero is no limit. -/
  defaultTimeoutMs : Nat := 0
  deriving DecidableEq

/-- The longest time a request may take where a connection string sets none. -/
def Settings.timeout (settings : Settings) : Option Duration :=
  if settings.defaultTimeoutMs = 0 then none else some (settings.defaultTimeoutMs * Duration.millisecond)

end SqlEngine
