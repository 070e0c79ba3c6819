import PackageMetadata.Store.Basic

/-!
# Plain stores

A plain store is a map and no more.  It gives the four operations that a store has to have
and leaves all else to the defaults, so it cannot commit.
-/

namespace PackageMetadata

/-- A map from coordinates to records as a store. -/
structure PlainStore where
  records : OrderedMap Coordinate Record := ∅
deriving DecidableEq

namespace PlainStore

instance : Store PlainStore where
  fetch coordinate store :=
    match store.records.get? coordinate with
    | some record => .done record store
    | none => .failed (.noEntry coordinate) store
  write coordinate record store :=
    .done () ⟨store.records.insert coordinate record⟩
  delete coordinate store :=
    if store.records.contains coordinate then
      .done () ⟨store.records.erase coordinate⟩
    else
      .failed (.noEntry coordinate) store
  keys store := .done store.records.keys store

end PlainStore
end PackageMetadata
