import PackageMetadata.Schema

/-!
# Configurations

A configuration is what the user of a cache may choose.
-/

namespace PackageMetadata

/-- The choices of the user of a cache. -/
structure Config where
  /-- Every change is refused. -/
  readOnly : Bool := false
  /-- How many changes may be pending before they are committed. -/
  syncRate : Nat := 0
  /-- The keys that records may have; the standard ones if none are chosen. -/
  keys : Option (List String) := none
deriving DecidableEq

namespace Config

/-- The schema that a configuration selects. -/
def schema (config : Config) : Schema :=
  match config.keys with
  | some keys => Schema.ofList keys
  | none => Schema.standard

end Config
end PackageMetadata
