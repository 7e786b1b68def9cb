import WebProxy.Library.Json
import WebProxy.Library.Ring

/-! The log of recent decisions: `Logs` with `record_log` before it and `get_logs` behind it. -/

namespace WebProxy.Logs

def capacity : Nat := 500

structure LogEntry where
  epochSecs : Int
  route : String
  method : String
  status : Nat
  durationMs : Nat
  category : String
  note : String
  deriving DecidableEq, Repr

def intJson (value : Int) : Json :=
  if 0 ≤ value then .number (.posInt value.toNat) else .number (.negInt value)

def LogEntry.toJson (entry : LogEntry) : Json :=
  .object [("t", intJson entry.epochSecs), ("route", .string entry.route),
    ("method", .string entry.method), ("status", .number (.posInt entry.status)),
    ("ms", .number (.posInt entry.durationMs)), ("category", .string entry.category),
    ("note", .string entry.note)]

abbrev Buffer := List LogEntry

def record (logs : Buffer) (entry : LogEntry) : Buffer := Ring.push capacity logs entry

def noteLimit : Nat := 160

def truncated (note : String) : String :=
  if noteLimit < note.toList.length then String.ofList (note.toList.take 159) ++ "…" else note

def recordLog (logs : Buffer) (entry : LogEntry) : Buffer :=
  record logs { entry with note := truncated entry.note }

def getLogs (logs : Buffer) : Json :=
  .object [("count", .number (.posInt logs.length)),
    ("entries", .array (logs.reverse.map LogEntry.toJson))]

def kept (entry : LogEntry) : LogEntry := { entry with note := truncated entry.note }

theorem truncated_front (note : String) : (truncated note).toList.take 159 = note.toList.take 159 := by
  unfold truncated
  split
  · rename_i long
    have cut : (note.toList.take 159).length = 159 := by
      rw [List.length_take]
      rw [noteLimit] at long
      omega
    rw [String.toList_append, String.toList_ofList, List.take_append_of_le_length (by omega),
      List.take_take, Nat.min_self]
  · rfl

theorem foldl_recordLog (entries : List LogEntry) :
    entries.foldl recordLog [] = Ring.latest capacity (entries.map kept) := by
  rw [← Ring.foldl_push (by decide), List.foldl_map]
  rfl

end WebProxy.Logs
