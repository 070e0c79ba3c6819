import PackageMetadata.Cache.Basic
import PackageMetadata.Proofs.OrderedMap

/-!
# Records key by key

What cleansing and the encoding of eclasses make of the value under each key of a record, and what
a cache makes of it on the way to its store.
-/

namespace PackageMetadata
namespace Record

/-- Cleansing takes the empty values away. -/
theorem get?_withoutEmpty
    (record : Record)
    (key : String) :
    record.withoutEmpty.get? key = (record.get? key).filter fun value => !value.isEmpty :=
  OrderedMap.get?_filter record (fun _ value => !value.isEmpty) key

/-- Encoding puts the text of the value under the key of the eclasses and changes nothing
else. -/
theorem get?_encodeEclasses
    (record : Record)
    (key : String) :
    record.encodeEclasses.get? key =
      (record.get? key).map fun value =>
        if key = eclassesKey then .text value.display else value := by
  rw [encodeEclasses]
  split
  · rename_i eclasses hvalue
    rw [OrderedMap.get?_insert]
    by_cases h : key = eclassesKey
    · subst h
      simp [hvalue, Value.display]
    · simp [h]
  · rename_i hvalue
    by_cases h : key = eclassesKey
    · subst h
      cases hfound : record.get? eclassesKey with
      | none =>
          rfl
      | some value =>
          cases value with
          | text content =>
              rfl
          | eclasses eclasses =>
              exact absurd hfound (hvalue eclasses)
    · simp [h]

/-- Only text under the key of the eclasses is decoded. -/
theorem decodeEclasses_eq
    (record : Record)
    (coordinate : Coordinate) :
    record.decodeEclasses coordinate =
      match record.text? eclassesKey with
      | some raw =>
          (Eclasses.decode coordinate raw).map fun eclasses =>
            record.insert eclassesKey (.eclasses eclasses)
      | none => .ok record := by
  rw [decodeEclasses, text?]
  cases record.get? eclassesKey with
  | none =>
      rfl
  | some value =>
      cases value <;> rfl

end Record

namespace Cache

universe u

/-- On the way to the store a value is left out if it is empty and the store wants no such values.
Any other value stays, the eclasses under their key as text if the store wants them so. -/
theorem get?_prepare
    {σ : Type u}
    (cache : Cache σ)
    (record : Record)
    (key : String) :
    (cache.prepare record).get? key =
      (record.get? key).bind fun value =>
        if cache.traits.cleanses && value.isEmpty then
          none
        else if cache.traits.encodesEclasses && key == Record.eclassesKey then
          some (.text value.display)
        else
          some value := by
  rw [prepare]
  cases cache.traits.cleanses <;> cases cache.traits.encodesEclasses <;>
    simp only [Bool.false_eq_true, if_false, if_true, Record.get?_encodeEclasses,
      Record.get?_withoutEmpty] <;>
    cases record.get? key with
    | none =>
        rfl
    | some value =>
        cases hempty : value.isEmpty <;> by_cases hkey : key = Record.eclassesKey <;>
          simp [hempty, hkey, Option.filter]

end Cache
end PackageMetadata
