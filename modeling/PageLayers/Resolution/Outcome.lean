import PageLayers.Store.Query

/-!
Outcomes of resolutions: a result or a failure, together with a journal of the fetches that were
made and the warnings that were given. The journal is kept whether or not there is a result.

Nothing here tells the time. Resolutions side by side are all carried out, and where several of them
fail, the caller hears of the failure that comes first in time, which depends on how long the source
takes to answer. The first one in their order stands for it. That a resolution fails does not depend
on this, but which failure it is does, so that where a violation and another failure race it decides
whether `orElse` goes on.
-/

namespace PageLayers

inductive Warning
  /-- A binding failed, and its layer was kept as it was. -/
  | keptLayer (layerId : String)
  /-- An item that a reference field names could not be fetched. -/
  | skippedReference (fieldId : String) (cause : Failure)
  deriving DecidableEq, Repr

def Warning.text : Warning → String
  | keptLayer layerId => "collection layer " ++ layerId
  | skippedReference fieldId cause =>
    "Failed to resolve reference field " ++ fieldId ++ ": " ++ cause.message

structure Journal where
  fetches : Nat := 0
  warnings : List Warning := []
  deriving DecidableEq, Repr

instance : Append Journal where
  append a b := ⟨a.fetches + b.fetches, a.warnings ++ b.warnings⟩

/-- A result or a failure, and what happened on the way to it. -/
structure Outcome (α : Type) where
  result : Except Failure α
  journal : Journal := {}

namespace Outcome
variable {α β : Type}

def ofResult (result : Except Failure α) : Outcome α := ⟨result, {}⟩

def fail (cause : Failure) : Outcome α := ofResult (.error cause)

def andThen (o : Outcome α) (next : α → Outcome β) : Outcome β :=
  match o.result with
  | .ok a => ⟨(next a).result, o.journal ++ (next a).journal⟩
  | .error cause => ⟨.error cause, o.journal⟩

instance : Monad Outcome where
  pure a := ofResult (.ok a)
  bind := andThen

def ofReply (r : Reply α) : Outcome α := ⟨r.result, ⟨r.fetches, []⟩⟩

def warn (w : Warning) : Outcome Unit := ⟨.ok (), ⟨0, [w]⟩⟩

/-- Two resolutions side by side. Both are carried out. If both fail, the failure of the first one
    counts, whichever was there earlier. -/
def both (o : Outcome α) (p : Outcome β) : Outcome (α × β) :=
  ⟨do return (← o.result, ← p.result), o.journal ++ p.journal⟩

/-- Resolutions side by side. All are carried out, and the first failure in their order counts. -/
def all : List (Outcome α) → Outcome (List α)
  | [] => pure []
  | o :: os => (fun (a, as) => a :: as) <$> both o (all os)

/-- Goes on from a failure that is no violation. -/
def orElse (o : Outcome α) (recover : Failure → Outcome α) : Outcome α :=
  match o.result with
  | .ok _ => o
  | .error cause =>
    if cause.isViolation then o
    else ⟨(recover cause).result, o.journal ++ (recover cause).journal⟩

end Outcome
end PageLayers
