import RunLedger.Logging.Level
import RunLedger.Value.Basic

/-!
# Log events

An event has a name, a level and fields in order, and may be logged with an error.  Logs are told
apart from what is printed of them.

    key ∈ (putFields fields m).map Prod.fst ↔
      key ∈ fields.map Prod.fst ∨ key ∈ m.map Prod.fst                        (mem_keys_putFields)
-/

namespace RunLedger

/-- The key of the field that holds an event's arguments until they are filled into its name. -/
def argumentsKey : String := "positional_args"

/-- Something worth a line in a log, with its arguments, if any, filled into its name; and the text
of the error that it is logged with. -/
structure LogEvent where
  name : String
  level : LogLevel
  fields : List (String × Value)
  filled : argumentsKey ∉ fields.map Prod.fst
  error : Option String
deriving Repr

namespace LogEvent

/-- An event without an error. -/
def of (name : String) (level : LogLevel) (fields : List (String × Value))
    (filled : argumentsKey ∉ fields.map Prod.fst := by simp [argumentsKey]) : LogEvent :=
  ⟨name, level, fields, filled, none⟩

/-- Fields put into an ordered mapping, one after the other. -/
def putFields (fields m : List (String × Value)) : List (String × Value) :=
  fields.foldl (fun m f => putEntry f.1 f.2 m) m

theorem mem_keys_putFields {key : String} {fields m : List (String × Value)} :
    key ∈ (putFields fields m).map Prod.fst ↔
      key ∈ fields.map Prod.fst ∨ key ∈ m.map Prod.fst := by
  induction fields generalizing m with
  | nil => simp [putFields]
  | cons f fields ih =>
    have hstep : putFields (f :: fields) m = putFields fields (putEntry f.1 f.2 m) := rfl
    rw [hstep, ih, mem_keys_putEntry_iff, List.map_cons, List.mem_cons]
    exact or_left_comm.trans or_assoc.symm

end LogEvent

end RunLedger
