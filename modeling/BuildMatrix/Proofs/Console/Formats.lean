import BuildMatrix.Console
import BuildMatrix.Event
import BuildMatrix.Proofs.Json.OneLine

namespace BuildMatrix

namespace Output

@[simp] theorem stdout_out (s : String) : (out s).stdout = s := rfl

@[simp] theorem stderr_out (s : String) : (out s).stderr = "" := rfl

@[simp] theorem stdout_err (s : String) : (err s).stdout = "" := rfl

@[simp] theorem stdout_append (a b : Output) : (a ++ b).stdout = a.stdout ++ b.stdout := rfl

@[simp] theorem stderr_append (a b : Output) : (a ++ b).stderr = a.stderr ++ b.stderr := rfl

@[simp] theorem empty_append (o : Output) : ({} : Output) ++ o = o := by
  change mk ("" ++ o.stdout) ("" ++ o.stderr) = o
  rw [String.empty_append, String.empty_append]

theorem stdout_join (parts : List Output) :
    (join parts).stdout = String.join (parts.map stdout) := by
  induction parts with
  | nil => rfl
  | cons part rest ih =>
    rw [List.map_cons, String.join_cons, ← ih]
    rfl

theorem stderr_join (parts : List Output) :
    (join parts).stderr = String.join (parts.map stderr) := by
  induction parts with
  | nil => rfl
  | cons part rest ih =>
    rw [List.map_cons, String.join_cons, ← ih]
    rfl

end Output

namespace Json

def reason? : Json → Option String
  | obj fields => fields.findSome? fun
    | ("reason", str s) => some s
    | _ => none
  | _ => none

def ofError (message : String) : Json :=
  .obj [("message", .str message), ("reason", .str "error")]

theorem reason?_ofError (message : String) : (ofError message).reason? = some "error" := by
  simp [ofError, reason?]

end Json

theorem Event.reason?_ne_error (e : Event) : e.toJson.reason? ≠ some "error" := by
  cases e with
  | stageStarted stage command cwd =>
    cases cwd with
    | none => simp [toJson, stageFields, Json.reason?]
    | some p => cases h : p.text? <;> simp [toJson, stageFields, Json.reason?, h]
  | _ => simp [toJson, Json.reason?]

namespace Console

variable {c : Console}

section

variable (h : c.isJson = true)
include h

theorem event_of_isJson (j : Json) : c.event j = .out j.line := by
  rw [event, if_pos h]
  rfl

theorem error_of_isJson (message : String) :
    c.error message = .out (Json.ofError message).line := by
  rw [error, if_pos h, event_of_isJson h]
  rfl

theorem status_of_isJson (s : Status) (message : String) : c.status s message = {} := by
  simp [status, h]

end

theorem stdout_status (s : Status) (message : String) : (c.status s message).stdout = "" := by
  unfold status
  split <;> rfl

theorem stdout_raw (text : String) : (c.raw text).stdout = "" := by
  unfold raw
  split <;> rfl

theorem stdout_error (h : c.isJson = false) (message : String) : (c.error message).stdout = "" := by
  rw [error, if_neg (by simp [h]), stdout_status]

end Console

end BuildMatrix
