/-!
# The log of a service

The log keeps the latest `Log.capacity` entries, oldest first (`Log.add`,
`Log.record`).
-/

namespace Datasheet

structure LogEntry where
  level : String
  source : String
  message : String
deriving DecidableEq

/-- How many entries a log keeps. -/
def Log.capacity : Nat := 100

structure Log where
  entries : List LogEntry
  length_le : entries.length ≤ Log.capacity

namespace Log

def empty : Log := ⟨[], Nat.zero_le _⟩

/-- Adds an entry; the oldest one makes room for it if need be. -/
def add (log : Log) (e : LogEntry) : Log where
  entries := (log.entries ++ [e]).drop (log.entries.length + 1 - capacity)
  length_le := by
    simp only [List.length_drop, List.length_append, List.length_singleton]
    omega

/-- Adds an entry if there is one. -/
def record (log : Log) : Option LogEntry → Log
  | none => log
  | some e => log.add e

end Log

end Datasheet
