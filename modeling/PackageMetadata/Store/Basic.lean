import PackageMetadata.Outcome
import PackageMetadata.Record.Basic

/-!
# Stores

A store keeps records under coordinates.  Any of its operations may fail and any of them,
reading included, may change the store.  Four operations have to be given; the others have
a default that suits a store which collects changes until they are committed.
-/

namespace PackageMetadata

universe u

/-- What a store says about itself. -/
structure Capabilities where
  /-- Every change is durable at once. -/
  autocommits : Bool := false
  /-- Eclasses are kept with all of their data. -/
  completeEclasses : Bool := true
  /-- Empty values are to be left out. -/
  cleanses : Bool := false
  /-- Eclasses are to be handed over as text. -/
  encodesEclasses : Bool := true
  /-- No change is taken. -/
  readOnly : Bool := false
deriving DecidableEq

/-- A state that keeps records under coordinates. -/
class Store (σ : Type u) where
  /-- The record of a coordinate. -/
  fetch : Coordinate → σ → Outcome σ Record
  /-- Stores a record, in place of an earlier one. -/
  write : Coordinate → Record → σ → Outcome σ Unit
  /-- Takes the record of a coordinate out. -/
  delete : Coordinate → σ → Outcome σ Unit
  /-- The coordinates that have a record. -/
  keys : σ → Outcome σ (List Coordinate)
  /-- Whether a coordinate has a record.  By default it is looked for among the keys. -/
  contains : Coordinate → σ → Outcome σ Bool :=
    fun coordinate store =>
      (keys store).andThen fun found store => .done (found.contains coordinate) store
  /-- Makes collected changes durable.  By default there is no such operation. -/
  commit : σ → Outcome σ Unit :=
    fun store => .failed (.notImplemented "commit") store
  /-- What the store says about itself. -/
  capabilities : σ → Capabilities :=
    fun _ => {}

end PackageMetadata
