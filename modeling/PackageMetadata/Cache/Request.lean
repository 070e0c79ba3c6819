import PackageMetadata.Cache.Basic

/-!
# Requests to a cache

What can be asked of a cache is a type of its own, so that a session is a list of requests
and whatever holds after every session can be said by induction on it.
-/

namespace PackageMetadata
namespace Cache

universe u

/-- What can be asked of a cache. -/
inductive Request where
  | get (coordinate : Coordinate)
  | set (coordinate : Coordinate) (record : Record)
  | delete (coordinate : Coordinate)
  | contains (coordinate : Coordinate)
  | keys
  | items
  | sync (rate : Nat)
  | commit
deriving DecidableEq

/-- What a cache answers if it does not fail. -/
inductive Answer where
  | done
  | record (record : Record)
  | found (found : Bool)
  | coordinates (coordinates : List Coordinate)
  | items (items : List (Coordinate × Record))
deriving DecidableEq

variable {σ : Type u} [Store σ]

/-- Serves one request. -/
def serve
    (cache : Cache σ) :
    Request → Outcome (Cache σ) Answer
  | .get coordinate => (cache.get coordinate).map .record
  | .set coordinate record => (cache.set coordinate record).map fun _ => .done
  | .delete coordinate => (cache.delete coordinate).map fun _ => .done
  | .contains coordinate => (cache.contains coordinate).map .found
  | .keys => cache.keys.map .coordinates
  | .items => cache.items.map .items
  | .sync rate => (cache.sync rate).map fun _ => .done
  | .commit => cache.commit.map fun _ => .done

/-- The cache after a session. -/
def after
    (cache : Cache σ)
    (session : List Request) :
    Cache σ :=
  session.foldl (fun cache request => (cache.serve request).state) cache

/-- The results of the requests of a session in order. -/
def answers
    (cache : Cache σ) :
    List Request → List (Except Failure Answer)
  | [] => []
  | request :: rest =>
      let served := cache.serve request
      served.result :: served.state.answers rest

end Cache
end PackageMetadata
