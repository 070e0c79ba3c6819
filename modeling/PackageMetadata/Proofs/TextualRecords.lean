import PackageMetadata.Proofs.HandedOver

/-!
# When a store is handed text only

A store that has eclasses encoded for it expects every value to be text.  A cache encodes the value
under the key of the eclasses and no other.  A schema says nothing about values, so it admits
decoded eclasses under every key that it has, and under any other key they are handed over as they
are.  Cleansing saves a record only if there are no eclasses in the misplaced value, since then it
is left out.

**Definitions**

* `Textual`: all values of a record are text.
* `DecodedInPlace`: a record has decoded eclasses under their own key only.
* `AllInPlace`: all records of a session are such records.

**Results**

* `text_of_eclassesKey`: eclasses are text when they are handed over.
* `textual_prepare_iff`: when a record is.
* `textual_writes_iff`: what a session hands over, and when all of it is text.
* `misplaced_eclasses_stored`: decoded eclasses in a store that has them encoded.
-/

namespace PackageMetadata

universe u

namespace Record

/-- All values of a record are text. -/
def Textual (record : Record) : Prop :=
  ∀ entry ∈ record.toList, entry.2.text?.isSome = true

instance : DecidablePred Textual :=
  fun record => inferInstanceAs (Decidable (∀ entry ∈ record.toList, entry.2.text?.isSome = true))

/-- No value is decoded eclasses but the one under their own key, and such as are left out when the
record is cleansed, there being no eclasses in them. -/
def DecodedInPlace
    (cleanses : Bool)
    (record : Record) :
    Prop :=
  ∀ entry ∈ record.toList,
    entry.1 = eclassesKey ∨ entry.2.text?.isSome = true ∨
      cleanses = true ∧ entry.2.isEmpty = true

instance (cleanses : Bool) : DecidablePred (DecodedInPlace cleanses) :=
  fun record => inferInstanceAs (Decidable (∀ entry ∈ record.toList,
    entry.1 = eclassesKey ∨ entry.2.text?.isSome = true ∨
      cleanses = true ∧ entry.2.isEmpty = true))

variable {record : Record}

theorem textual_iff_get? :
    record.Textual ↔ ∀ key value, record.get? key = some value → value.text?.isSome = true := by
  constructor
  · intro h key value hvalue
    exact h (key, value) (OrderedMap.mem_toList_iff.mpr hvalue)
  · rintro h ⟨key, value⟩ hentry
    exact h key value (OrderedMap.mem_toList_iff.mp hentry)

theorem decodedInPlace_iff_get?
    {cleanses : Bool} :
    record.DecodedInPlace cleanses ↔
      ∀ key value, record.get? key = some value →
        key = eclassesKey ∨ value.text?.isSome = true ∨ cleanses = true ∧ value.isEmpty = true := by
  constructor
  · intro h key value hvalue
    exact h (key, value) (OrderedMap.mem_toList_iff.mpr hvalue)
  · rintro h ⟨key, value⟩ hentry
    exact h key value (OrderedMap.mem_toList_iff.mp hentry)

end Record

namespace Cache

section Preparing

variable {σ : Type u} {cache : Cache σ} {given : Record}
variable (hencodes : cache.traits.encodesEclasses = true)
include hencodes

/-- Whatever stands under the key of the eclasses is handed over as text. -/
theorem text_of_eclassesKey
    {value : Value}
    (hvalue : (cache.prepare given).get? Record.eclassesKey = some value) :
    value.text?.isSome = true := by
  rw [get?_prepare, Option.bind_eq_some_iff, hencodes] at hvalue
  obtain ⟨original, -, hkept⟩ := hvalue
  split at hkept
  · cases hkept
  · obtain rfl := Option.some.inj hkept
    rfl

/-- A record is handed over as text exactly if all of its decoded eclasses are in their place. -/
theorem textual_prepare_iff :
    (cache.prepare given).Textual ↔ given.DecodedInPlace cache.traits.cleanses := by
  rw [Record.textual_iff_get?, Record.decodedInPlace_iff_get?]
  constructor
  · intro htextual key value hvalue
    by_cases hplace : key = Record.eclassesKey
    · exact .inl hplace
    · -- Under any other key the value is left out or handed over as it is.
      have hkept := get?_prepare cache given key
      rw [hvalue, Option.bind_some, beq_eq_false_iff_ne.mpr hplace, Bool.and_false] at hkept
      refine .inr ?_
      cases hleft : cache.traits.cleanses && value.isEmpty with
      | true =>
          exact .inr (Bool.and_eq_true_iff.mp hleft)
      | false =>
          rw [hleft] at hkept
          exact .inl (htextual key value hkept)
  · intro hplaced key value hvalue
    by_cases hplace : key = Record.eclassesKey
    · rw [hplace] at hvalue
      exact text_of_eclassesKey hencodes hvalue
    · rw [get?_prepare, Option.bind_eq_some_iff, beq_eq_false_iff_ne.mpr hplace] at hvalue
      obtain ⟨original, horiginal, hkept⟩ := hvalue
      split at hkept
      · cases hkept
      · rename_i hleft
        obtain rfl : original = value := by simpa using hkept
        rcases hplaced key original horiginal with hkey | htext | hempty
        · exact absurd hkey hplace
        · exact htext
        · exact absurd (Bool.and_eq_true_iff.mpr hempty) hleft

end Preparing

section Sessions

/-- All records that are set in a session, as far as a schema admits them, have their decoded
eclasses in their place. -/
def AllInPlace
    (schema : Schema)
    (cleanses : Bool)
    (session : List Request) :
    Prop :=
  ∀ coordinate given, .set coordinate given ∈ session →
    schema.validate given = .ok () → given.DecodedInPlace cleanses

/-- A cache that takes changes, over a fresh store in memory that has eclasses encoded, in any
session.  It hands over the records that were set and that the schema admits, one by one, and the
store has no others, committed or staged.  Each of them has text under the key of the eclasses.  All
of them are text exactly if no admitted record had decoded eclasses in the wrong place, and then the
store has text only. -/
theorem textual_writes_iff
    (settings : List MemoryStore.Setting)
    (config : Config)
    (hencodes : MemoryStore.Setting.rawEclasses ∉ settings)
    (hwritable : config.readOnly = false ∧ MemoryStore.Setting.readOnly ∉ settings)
    (session : List Request) :
    let cache := inMemory settings config
    let store := (cache.after session).store
    let handed := (cache.journal session).writes
    let cleanses := settings.contains .cleansing
    (∀ coordinate record, (coordinate, record) ∈ handed ↔
        ∃ given, .set coordinate given ∈ session ∧ config.schema.validate given = .ok () ∧
          record = cache.prepare given) ∧
      (∀ given, (cache.prepare given).Textual ↔ given.DecodedInPlace cleanses) ∧
      (∀ entry ∈ handed, ∀ value, entry.2.get? Record.eclassesKey = some value →
        value.text?.isSome = true) ∧
      (store.Holds fun coordinate record => (coordinate, record) ∈ handed) ∧
      ((∀ entry ∈ handed, entry.2.Textual) ↔ AllInPlace config.schema cleanses session) ∧
      (AllInPlace config.schema cleanses session → store.Holds fun _ record => record.Textual) := by
  intro cache store handed cleanses
  have htraits := traits_inMemory settings config
  have htaken : cache.readOnly = false := by
    have hstore : cache.traits.readOnly = false := by
      simpa [cache, htraits] using hwritable.2
    exact Bool.or_eq_false_iff.mpr ⟨hwritable.1, hstore⟩
  have hencoded : cache.traits.encodesEclasses = true := by
    simpa [cache, htraits] using hencodes
  have hcleanses : cache.traits.cleanses = cleanses := congrArg Capabilities.cleanses htraits
  have hmem (coordinate : Coordinate) (record : Record) : (coordinate, record) ∈ handed ↔
      ∃ given, .set coordinate given ∈ session ∧ config.schema.validate given = .ok () ∧
        record = cache.prepare given :=
    (mem_writes_iff cache session).trans (and_iff_right htaken)
  have htextual (given : Record) :
      (cache.prepare given).Textual ↔ given.DecodedInPlace cleanses := by
    rw [← hcleanses]
    exact textual_prepare_iff hencoded
  have hstored := holds_handed settings config session
  have hall : (∀ entry ∈ handed, entry.2.Textual) ↔
      AllInPlace config.schema cleanses session := by
    constructor
    · intro hhanded coordinate given hset hvalid
      have hentry := (hmem coordinate (cache.prepare given)).mpr ⟨given, hset, hvalid, rfl⟩
      exact (htextual given).mp (hhanded _ hentry)
    · rintro hplaced ⟨coordinate, record⟩ hentry
      obtain ⟨given, hset, hvalid, rfl⟩ := (hmem coordinate record).mp hentry
      exact (htextual given).mpr (hplaced coordinate given hset hvalid)
  refine ⟨hmem, htextual, ?_, hstored, hall, fun hplaced => ?_⟩
  · rintro ⟨coordinate, record⟩ hentry value hvalue
    obtain ⟨given, -, -, rfl⟩ := (hmem coordinate record).mp hentry
    exact text_of_eclassesKey hencoded hvalue
  · exact hstored.imp fun coordinate record hentry => hall.mpr hplaced (coordinate, record) hentry

/-- A store that wants no empty values has been given decoded eclasses in their place, and under the
key of the slot, too, where there are none.  It has text only.  Had there been one then it would
have been handed more than text. -/
theorem textual_writes_iff_cleansed :
    let coordinate : Coordinate := ⟨"dev-libs", "a", "1", rfl, rfl, rfl⟩
    let eclasses : Eclasses := OrderedMap.ofList [("a", ⟨"/e", 1⟩)]
    let given (slot : Eclasses) : Record :=
      OrderedMap.ofList [("SLOT", .eclasses slot), ("_eclasses_", .eclasses eclasses)]
    let settings : List MemoryStore.Setting := [.cleansing]
    let config : Config := {}
    let cache := inMemory settings config
    let session (slot : Eclasses) : List Request := [.set coordinate (given slot)]
    MemoryStore.Setting.rawEclasses ∉ settings ∧
      (config.readOnly = false ∧ MemoryStore.Setting.readOnly ∉ settings) ∧
      ((cache.after (session ∅)).store.Holds fun _ record => record.Textual) ∧
      (cache.journal (session ∅)).writes.length = 1 ∧
      ¬ ∀ entry ∈ (cache.journal (session eclasses)).writes, entry.2.Textual := by
  intro coordinate eclasses given settings config cache session
  have hencodes : MemoryStore.Setting.rawEclasses ∉ settings := by decide
  have hwritable : config.readOnly = false ∧ MemoryStore.Setting.readOnly ∉ settings := by decide
  obtain ⟨-, -, -, -, -, hstored⟩ :=
    textual_writes_iff settings config hencodes hwritable (session ∅)
  obtain ⟨-, -, -, -, hhanded, -⟩ :=
    textual_writes_iff settings config hencodes hwritable (session eclasses)
  refine ⟨hencodes, hwritable, hstored ?_, by decide, fun htextual => ?_⟩
  · intro other record hset _
    obtain ⟨rfl, rfl⟩ := Request.set.inj (List.mem_singleton.mp hset)
    decide
  · have hplaced := hhanded.mp htextual coordinate (given eclasses) (List.mem_singleton_self _)
      (by decide)
    exact absurd hplaced (by decide)

/-- A record with decoded eclasses under the key of the slot is admitted, handed over, and made
durable as it is by a cache that has eclasses encoded. -/
theorem misplaced_eclasses_stored :
    let coordinate : Coordinate := ⟨"dev-libs", "a", "1", rfl, rfl, rfl⟩
    let given : Record :=
      OrderedMap.ofList [("SLOT", .eclasses (OrderedMap.ofList [("a", ⟨"/e", 1⟩)]))]
    let cache := inMemory [] {}
    let session : List Request := [.set coordinate given]
    cache.readOnly = false ∧ cache.traits.encodesEclasses = true ∧
      cache.answers session = [.ok .done] ∧
      (cache.journal session).writes = [(coordinate, given)] ∧
      (cache.after session).store.committed.get? coordinate = some given ∧
      ¬ given.Textual := by
  decide

end Sessions

end Cache
end PackageMetadata
