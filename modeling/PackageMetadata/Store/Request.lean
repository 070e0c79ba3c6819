import PackageMetadata.Store.Basic

/-!
# Requests to a store

The operations of a store as a type, so that a session with a store is a list.
-/

namespace PackageMetadata
namespace Store

universe u

/-- What can be asked of a store. -/
inductive Request where
  | fetch (coordinate : Coordinate)
  | write (coordinate : Coordinate) (record : Record)
  | delete (coordinate : Coordinate)
  | keys
  | contains (coordinate : Coordinate)
  | commit
deriving DecidableEq

/-- What a store answers if it does not fail. -/
inductive Answer where
  | done
  | record (record : Record)
  | coordinates (coordinates : List Coordinate)
  | found (found : Bool)
deriving DecidableEq

/-- Serves one request. -/
def serve
    {σ : Type u}
    [Store σ]
    (store : σ) :
    Request → Outcome σ Answer
  | .fetch coordinate => (fetch coordinate store).map .record
  | .write coordinate record => (write coordinate record store).map fun _ => .done
  | .delete coordinate => (delete coordinate store).map fun _ => .done
  | .keys => (keys store).map .coordinates
  | .contains coordinate => (contains coordinate store).map .found
  | .commit => (commit store).map fun _ => .done

end Store
end PackageMetadata
