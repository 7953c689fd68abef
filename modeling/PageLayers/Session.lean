import PageLayers.Page
import PageLayers.Store.Faults
import PageLayers.Store.Repository

/-!
Work over one repository, step by step. Collections come and go between the steps, and every fetch
is counted, whether or not the step that makes it succeeds.
-/

namespace PageLayers

structure Session where
  repository : Repository := {}
  faults : Faults := {}
  deriving DecidableEq, Repr

namespace Session

def source (s : Session) : DataSource := s.repository.source.withFaults s.faults

def fetchCount (s : Session) : Nat := s.repository.fetches

def add (id : String) (fields : List Field) (items : List Item) (only : Option Variant)
    (s : Session) : Session :=
  { s with repository := s.repository.add id fields items only }

def remove (id : String) (only : Option Variant) (s : Session) : Session :=
  { s with repository := s.repository.remove id only }

def run {α : Type} (step : DataSource → Outcome α) (s : Session) : Outcome α × Session :=
  let o := step s.source
  (o, { s with repository := s.repository.afterFetches o.journal.fetches })

end Session
end PageLayers
