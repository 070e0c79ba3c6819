import PackageMetadata.Record.Basic

/-!
# Schemas

A schema is the closed set of keys that the records of a cache may have.
-/

namespace PackageMetadata

/-- The keys that a record may have. -/
structure Schema where
  /-- The keys as a map to nothing. -/
  members : OrderedMap String Unit
deriving DecidableEq

namespace Schema

/-- The schema of the given keys. -/
def ofList (keys : List String) : Schema :=
  ⟨OrderedMap.ofList (keys.map fun key => (key, ()))⟩

/-- The variables of an ebuild that are worth caching, and the cache's own keys. -/
def standardKeys : List String :=
  ["DEPEND", "RDEPEND", "SLOT", "SRC_URI", "RESTRICT", "HOMEPAGE", "LICENSE",
    "DESCRIPTION", "KEYWORDS", "INHERITED", "IUSE", "REQUIRED_USE", "PDEPEND", "BDEPEND",
    "IDEPEND", "PROPERTIES", "DEFINED_PHASES", "EAPI", "_mtime_", "_md5_",
    Record.eclassesKey]

/-- The schema of a cache for which none was chosen. -/
def standard : Schema :=
  ofList standardKeys

/-- The keys in ascending order. -/
def keys (schema : Schema) : List String :=
  schema.members.keys

/-- Whether a key belongs to a schema. -/
def contains
    (schema : Schema)
    (key : String) :
    Bool :=
  schema.members.contains key

/-- Refuses a record with a key outside of the schema and names the smallest such key. -/
def validate
    (schema : Schema)
    (record : Record) :
    Except Failure Unit :=
  match record.keys.find? fun key => !schema.contains key with
  | some key => .error (.unknownKey key)
  | none => .ok ()

end Schema
end PackageMetadata
