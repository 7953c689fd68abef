import PageLayers.Entries
import PageLayers.Store.Query

/-!
Data sources with faults: some queries fail before anything is fetched.
-/

namespace PageLayers

inductive FaultKind
  | breakdown
  | violation
  | unavailable
  deriving DecidableEq, Repr

def FaultKind.failure (key : String) : FaultKind → Failure
  | breakdown => .breakdown "fault"
  | violation => .violation "fault"
  | unavailable => .unavailable key

structure Faults where
  items : Entries FaultKind := []
  item : Entries FaultKind := []
  fields : Entries FaultKind := []
  deriving DecidableEq, Repr

def FaultKind.reply {α : Type} (faults : Entries FaultKind) (key : String) (sound : Reply α) :
    Reply α :=
  match faults.lookup key with
  | some kind => ⟨.error (kind.failure key), 0⟩
  | none => sound

theorem FaultKind.reply_ok {α : Type} {faults : Entries FaultKind} {key : String} {sound : Reply α}
    {a : α} (answered : (FaultKind.reply faults key sound).result = .ok a) :
    sound.result = .ok a := by
  unfold FaultKind.reply at answered
  split at answered
  · simp at answered
  · exact answered

def DataSource.withFaults (faults : Faults) (s : DataSource) : DataSource where
  items id v query := FaultKind.reply faults.items id (s.items id v query)
  item id v := FaultKind.reply faults.item id (s.item id v)
  fields id v := FaultKind.reply faults.fields id (s.fields id v)
  finite v := by
    obtain ⟨ids, items, fields⟩ := s.finite v
    exact ⟨ids, fun id i found => items id i (FaultKind.reply_ok found),
      fun c fs found => fields c fs (FaultKind.reply_ok found)⟩

end PageLayers
