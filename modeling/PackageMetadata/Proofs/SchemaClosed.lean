import PackageMetadata.Proofs.HandedOver

/-!
# Records within the schema

A cache looks at the keys of a record before it does anything else with it, leaves out empty values
next, if its store wants none, and encodes eclasses last.  So a record with a foreign key never
reaches the store, not even if the value under that key would have been left out, and what reaches
it has no value without data: a text of eclasses is empty only if there are none.  Decoding, on the
way back, changes a value that is there, so that records are shown within the schema, too.

**Definitions**

* `Covers`: all keys of a record belong to a schema.
* `LeastUnknown`: the least key of a record that does not.
* `Conforms`: a record in a store is as the policy of the cache wants it.

**Results**

* `validate_eq_ok_iff`, `exists_leastUnknown`: what a schema admits, and how it refuses the rest.
* `covers_prepare`, `covers_present`: a record stays within the schema on its way in and out.
* `serve_of_unknown`, `journal_of_unknown`: nothing happens for a record that is refused.
* `conforms_of_handed`: what is handed over conforms.
* `covers_get`, `covers_items`: what is shown is within the schema.
* `stored_conforms`: all sessions.
-/

namespace PackageMetadata

universe u

namespace Schema

section Keys

/-- All keys of a record belong to a schema. -/
def Covers
    (schema : Schema)
    (record : Record) :
    Prop :=
  ∀ key ∈ record.keys, schema.contains key = true

instance (schema : Schema) : DecidablePred schema.Covers :=
  fun record => inferInstanceAs (Decidable (∀ key ∈ record.keys, schema.contains key = true))

/-- The first key of a record, in the order of code points, that does not belong to a schema. -/
structure LeastUnknown
    (schema : Schema)
    (record : Record)
    (key : String) :
    Prop where
  mem : key ∈ record.keys
  unknown : schema.contains key = false
  least : ∀ other ∈ record.keys, schema.contains other = false → key ≤ other

variable {schema : Schema} {record : Record}

theorem covers_iff_get? :
    schema.Covers record ↔
      ∀ key value, record.get? key = some value → schema.contains key = true := by
  constructor
  · intro h key value hvalue
    exact h key (OrderedMap.mem_keys_iff.mpr (Option.isSome_iff_exists.mpr ⟨value, hvalue⟩))
  · intro h key hkey
    obtain ⟨value, hvalue⟩ := Option.isSome_iff_exists.mp (OrderedMap.mem_keys_iff.mp hkey)
    exact h key value hvalue

/-- A schema admits the records that it covers. -/
theorem validate_eq_ok_iff :
    schema.validate record = .ok () ↔ schema.Covers record := by
  have hnone : (record.keys.find? fun key => !schema.contains key) = none ↔
      schema.Covers record := by
    simp [List.find?_eq_none, Covers]
  rw [validate, ← hnone]
  cases record.keys.find? fun key => !schema.contains key with
  | none =>
      exact iff_of_true rfl rfl
  | some key =>
      exact iff_of_false nofun nofun

/-- Keys are looked at in ascending order, so a refusal names the least one that is unknown. -/
theorem exists_leastUnknown (h : ¬ schema.Covers record) :
    ∃ key, schema.LeastUnknown record key ∧
      schema.validate record = .error (.unknownKey key) := by
  cases hfound : record.keys.find? fun key => !schema.contains key with
  | none =>
      rw [← validate_eq_ok_iff, validate, hfound] at h
      exact absurd rfl h
  | some key =>
      obtain ⟨hunknown, before, behind, hkeys, hbefore⟩ := List.find?_eq_some_iff_append.mp hfound
      have hascending := record.keys_ascend
      rw [hkeys] at hascending
      obtain ⟨hbehind, -⟩ := List.pairwise_cons.mp (List.pairwise_append.mp hascending).2.1
      refine ⟨key, ⟨by simp [hkeys], by simpa using hunknown, ?_⟩, by rw [validate, hfound]⟩
      intro other hother hforeign
      rw [hkeys, List.mem_append, List.mem_cons] at hother
      rcases hother with hother | rfl | hother
      · have hknown := hbefore other hother
        rw [hforeign] at hknown
        cases hknown
      · exact String.le_refl other
      · exact Std.le_of_lt (compareOfLessAndEq_eq_lt.mp (hbehind other hother))

end Keys

section Decoding

variable {schema : Schema} {record shown : Record} {coordinate : Coordinate}

/-- Decoding replaces a value that is there. -/
theorem covers_decodeEclasses
    (h : schema.Covers record)
    (hshown : record.decodeEclasses coordinate = .ok shown) :
    schema.Covers shown := by
  rw [Record.decodeEclasses] at hshown
  split at hshown
  · rename_i raw hraw
    obtain ⟨eclasses, -, rfl⟩ := Result.map_eq_ok_iff.mp hshown
    rw [covers_iff_get?] at h ⊢
    intro key value hvalue
    rw [OrderedMap.get?_insert] at hvalue
    split at hvalue
    · rename_i hsame
      rw [hsame]
      exact h Record.eclassesKey (.text raw) hraw
    · exact h key value hvalue
  · obtain rfl := Except.ok.inj hshown
    exact h

end Decoding

end Schema

namespace Cache

section Preparing

variable {σ : Type u} {cache : Cache σ} {schema : Schema} {given : Record}

theorem covers_prepare (h : schema.Covers given) :
    schema.Covers (cache.prepare given) := by
  rw [Schema.covers_iff_get?] at h ⊢
  intro key value hvalue
  obtain ⟨original, horiginal, -⟩ := exists_given_of_get? hvalue
  exact h key original horiginal

theorem covers_present
    {coordinate : Coordinate}
    {kept shown : Record}
    (h : schema.Covers kept)
    (hshown : cache.present coordinate kept = .ok shown) :
    schema.Covers shown := by
  rw [present] at hshown
  split at hshown
  · exact Schema.covers_decodeEclasses h hshown
  · obtain rfl := Except.ok.inj hshown
    exact h

end Preparing

section Refusing

variable {σ : Type u} [Store σ] {base cache : Cache σ} {given : Record} {failure : Failure}

theorem serve_of_unknown
    (h : base.SamePolicy cache)
    (hwritable : base.readOnly = false)
    (hunknown : base.schema.validate given = .error failure)
    (coordinate : Coordinate) :
    cache.serve (.set coordinate given) = .failed failure cache := by
  rw [serve, set, h.readOnly, hwritable, h.schema, hunknown]
  rfl

/-- A record with a foreign key is refused before the store is asked for anything. -/
theorem journal_of_unknown
    (hwritable : cache.readOnly = false)
    (hunknown : cache.schema.validate given = .error failure)
    (session : List Request)
    (coordinate : Coordinate) :
    cache.journal (session ++ [.set coordinate given]) = cache.journal session := by
  have hpolicy := samePolicy_after cache.journaled session
  rw [journal_concat, serve_of_unknown hpolicy hwritable hunknown]
  rfl

end Refusing

section Showing

variable {cache : Cache MemoryStore} {schema : Schema}

theorem covers_get
    (h : cache.store.Holds fun _ record => schema.Covers record)
    {coordinate : Coordinate}
    {record : Record}
    (hget : (cache.get coordinate).result = .ok record) :
    schema.Covers record := by
  obtain ⟨_, -, hfetch, -⟩ := Outcome.result_andThen_eq_ok hget
  obtain ⟨kept, hkept, hpresent, -⟩ := Outcome.result_andThen_eq_ok hfetch
  have hsettled := settle_keeps (MemoryStore.holds_keepsReading _) h
  exact covers_present (hsettled.fetch hkept) hpresent

theorem covers_getAll
    (h : cache.store.Holds fun _ record => schema.Covers record)
    {coordinates : List Coordinate}
    {items : List (Coordinate × Record)}
    (hitems : (cache.getAll coordinates).result = .ok items) :
    ∀ item ∈ items, schema.Covers item.2 := by
  induction coordinates generalizing cache items with
  | nil =>
      obtain rfl := Except.ok.inj hitems
      exact nofun
  | cons coordinate rest ih =>
      obtain ⟨record, hrecord, hrest, -⟩ := Outcome.result_andThen_eq_ok hitems
      obtain ⟨later, hlater, hdone, -⟩ := Outcome.result_andThen_eq_ok hrest
      obtain rfl := Except.ok.inj hdone
      have hkept := get_keeps (MemoryStore.holds_keepsReading _) h coordinate
      exact List.forall_mem_cons.mpr ⟨covers_get h hrecord, ih hkept hlater⟩

theorem covers_items
    (h : cache.store.Holds fun _ record => schema.Covers record)
    {items : List (Coordinate × Record)}
    (hitems : cache.items.result = .ok items) :
    ∀ item ∈ items, schema.Covers item.2 := by
  obtain ⟨coordinates, -, hall, -⟩ := Outcome.result_andThen_eq_ok hitems
  exact covers_getAll h hall

end Showing

section Sessions

/-- A record that a session has left under a coordinate, as the policy of the cache wants it. -/
structure Conforms
    (schema : Schema)
    (cleanses : Bool)
    (session : List Request)
    (coordinate : Coordinate)
    (record : Record) :
    Prop where
  /-- It has no foreign key. -/
  covered : schema.Covers record
  /-- It has no empty value, if such values are to be left out. -/
  filled : cleanses = true → ∀ key value, record.get? key = some value → value.isEmpty = false
  /-- It comes from a record that was set there: what was not empty in that one, be it text or
  decoded eclasses, is not empty in this one. -/
  source : ∃ given, .set coordinate given ∈ session ∧
    ∀ key value, given.get? key = some value → value.isEmpty = false →
      ∃ held, record.get? key = some held ∧ held.isEmpty = false

theorem conforms_of_handed
    {σ : Type u}
    [Store σ]
    {cache : Cache σ}
    {session : List Request}
    {coordinate : Coordinate}
    {record : Record}
    (h : (coordinate, record) ∈ (cache.journal session).writes) :
    Conforms cache.schema cache.traits.cleanses session coordinate record := by
  obtain ⟨-, given, hgiven, hvalid, rfl⟩ := (mem_writes_iff cache session).mp h
  constructor
  · exact covers_prepare (Schema.validate_eq_ok_iff.mp hvalid)
  · intro hcleanses key value hvalue
    obtain ⟨original, -, hsame, hfilled⟩ := exists_given_of_get? hvalue
    exact hsame.trans (hfilled hcleanses)
  · exact ⟨given, hgiven, fun _ _ => exists_filled_of_get?⟩

/-- A cache over a fresh store in memory, after any session.  What the store has, read or committed,
is within the schema, has no empty value if the store wants none, and has no value that became empty
on the way.  Whatever is shown is within the schema.  As long as the cache is not read only, a
record with a foreign key is refused with the least such key, and neither the cache nor its store
notices. -/
theorem stored_conforms
    (settings : List MemoryStore.Setting)
    (config : Config)
    (session : List Request) :
    let cache := inMemory settings config
    let now := cache.after session
    let conforms := Conforms config.schema (settings.contains .cleansing) session
    (∀ coordinate record, (now.stored coordinate).result = .ok record →
        conforms coordinate record) ∧
      (∀ coordinate record, now.store.committed.get? coordinate = some record →
        conforms coordinate record) ∧
      (∀ coordinate record, (now.get coordinate).result = .ok record →
        config.schema.Covers record) ∧
      (∀ items, now.items.result = .ok items → ∀ item ∈ items, config.schema.Covers item.2) ∧
      (cache.readOnly = false → ∀ coordinate given, ¬ config.schema.Covers given →
        ∃ key, config.schema.LeastUnknown given key ∧
          now.serve (.set coordinate given) = .failed (.unknownKey key) now ∧
          (Failure.unknownKey key).message = "invalid argument: unknown metadata key: " ++ key ∧
          cache.journal (session ++ [.set coordinate given]) = cache.journal session) := by
  intro cache now conforms
  have htraits : cache.traits.cleanses = settings.contains .cleansing :=
    congrArg Capabilities.cleanses (traits_inMemory settings config)
  have hconforms : now.store.Holds conforms := by
    refine (holds_handed settings config session).imp fun coordinate record hhanded => ?_
    have h := conforms_of_handed hhanded
    rwa [htraits] at h
  have hcovers : now.store.Holds fun _ record => config.schema.Covers record :=
    hconforms.imp fun _ _ h => h.covered
  refine ⟨fun _ _ hstored => hconforms.fetch hstored, hconforms.committed,
    fun _ _ hget => covers_get hcovers hget, fun _ hitems => covers_items hcovers hitems, ?_⟩
  intro hwritable coordinate given hforeign
  obtain ⟨key, hleast, hinvalid⟩ := Schema.exists_leastUnknown hforeign
  exact ⟨key, hleast, serve_of_unknown (samePolicy_after cache session) hwritable hinvalid coordinate,
    rfl, journal_of_unknown hwritable hinvalid session coordinate⟩

/-- A store that wants no empty values has been given a record with an empty slot and with eclasses
of which one is known by its name alone.  It has kept the eclasses only, as text, and they are shown
decoded.  A record with two foreign keys is refused for the lesser one, though there is nothing
under it that the store would have kept. -/
theorem stored_conforms_cleansed :
    let coordinate : Coordinate := ⟨"dev-libs", "a", "1", rfl, rfl, rfl⟩
    let eclasses : Value := .eclasses (OrderedMap.ofList [("a", ⟨"", 0⟩)])
    let given : Record := OrderedMap.ofList [("SLOT", .text ""), ("_eclasses_", eclasses)]
    let kept : Record := OrderedMap.ofList [("_eclasses_", .text "a\t\t0")]
    let shown : Record := OrderedMap.ofList [("_eclasses_", eclasses)]
    let foreign : Record :=
      OrderedMap.ofList [("slot", .text "0"), ("SLOT", .text "0"), ("Slot", .text "")]
    let session : List Request := [.set coordinate given]
    let cache := inMemory [.cleansing] {}
    let now := cache.after session
    (now.stored coordinate).result = .ok kept ∧
      Conforms Schema.standard true session coordinate kept ∧
      (now.get coordinate).result = .ok shown ∧ Schema.standard.Covers shown ∧
      cache.readOnly = false ∧ ¬ Schema.standard.Covers foreign ∧
      Schema.standard.LeastUnknown foreign "Slot" ∧
      cache.journal (session ++ [.set coordinate foreign]) = cache.journal session := by
  intro coordinate eclasses given kept shown foreign session cache now
  obtain ⟨hstored, -, hget, -, hrefused⟩ := stored_conforms [.cleansing] {} session
  have hkept : (now.stored coordinate).result = .ok kept := by decide
  have hshown : (now.get coordinate).result = .ok shown := by decide
  have hforeign : ¬ Schema.standard.Covers foreign := by decide
  obtain ⟨key, hleast, hserve, -, hjournal⟩ := hrefused rfl coordinate foreign hforeign
  have hkey : (now.serve (.set coordinate foreign)).result = .error (.unknownKey "Slot") := by
    decide
  rw [hserve] at hkey
  obtain rfl : key = "Slot" := Failure.unknownKey.inj (Except.error.inj hkey)
  exact ⟨hkept, hstored coordinate kept hkept, hshown, hget coordinate shown hshown, rfl, hforeign,
    hleast, hjournal⟩

end Sessions

end Cache
end PackageMetadata
