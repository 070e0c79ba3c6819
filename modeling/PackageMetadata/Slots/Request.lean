import PackageMetadata.Slots.Tracker

/-!
# Requests to a tracker

The operations that change a tracker as a type, so that the making of a plan is a list.
-/

namespace PackageMetadata
namespace Tracker

/-- What can be asked of a tracker. -/
inductive Request (P R : Type) where
  | fill (candidate : P)
  | limit (restriction : R)
  | add (entry : Entry P R)
  | remove (entry : Entry P R)
deriving DecidableEq

variable {P R : Type} [Slotted P] [Restriction R P] [DecidableEq P] [DecidableEq R]

/-- Serves one request.  The answer lists the entries that stand against it. -/
def serve
    (tracker : Tracker P R) :
    Request P R → Outcome (Tracker P R) (List (Entry P R))
  | .fill candidate => tracker.fill candidate
  | .limit restriction => tracker.add (.blocker restriction)
  | .add entry => tracker.add entry
  | .remove entry => (tracker.remove entry).map fun _ => []

/-- The tracker after some requests. -/
def after
    (tracker : Tracker P R)
    (requests : List (Request P R)) :
    Tracker P R :=
  requests.foldl (fun tracker request => (tracker.serve request).state) tracker

/-- The results of some requests in order. -/
def answers
    (tracker : Tracker P R) :
    List (Request P R) → List (Except Failure (List (Entry P R)))
  | [] => []
  | request :: rest =>
      let served := tracker.serve request
      served.result :: served.state.answers rest

end Tracker
end PackageMetadata
