import PackageMetadata.Slot

/-!
# What holds slots

Packages take slots and blockers forbid packages.  Both stand under a key, usually the
package with its category, and both are told apart by their identity, which is the equality
of their types.  Whether two packages count as the same one is a question of its own, and
the answer need not be a lawful equality.
-/

namespace PackageMetadata

/-- Things that take a slot under a key. -/
class Slotted (P : Type) where
  /-- The key under which slots are counted. -/
  key : P → String
  /-- The slot that is taken; only its main part decides about collisions. -/
  slot : P → Slot
  /-- Whether two packages count as the same one. -/
  agrees : P → P → Bool

/-- Things that forbid packages under a key. -/
class Restriction
    (R : Type)
    (P : outParam Type) where
  /-- The key that is guarded. -/
  key : R → String
  /-- Whether a package is forbidden. -/
  blocks : R → P → Bool

/-- Something that is held under a key. -/
inductive Entry (P R : Type) where
  /-- A package in its slot. -/
  | occupant (package : P)
  /-- A standing blocker. -/
  | blocker (restriction : R)
deriving DecidableEq

namespace Entry

variable {P R : Type}

/-- The key of the package or blocker. -/
def key
    [Slotted P]
    [Restriction R P] :
    Entry P R → String
  | .occupant package => Slotted.key package
  | .blocker restriction => Restriction.key restriction

/-- The package of an occupant. -/
def occupant? : Entry P R → Option P
  | .occupant package => some package
  | .blocker _ => none

/-- The restriction of a blocker. -/
def blocker? : Entry P R → Option R
  | .occupant _ => none
  | .blocker restriction => some restriction

end Entry

/-- An element of a list, told from equal ones by its position. -/
structure Numbered (α : Type) where
  position : Nat
  value : α
deriving DecidableEq

namespace Numbered

variable {α P R : Type}

/-- The elements of a list with their positions. -/
def ofList (values : List α) : List (Numbered α) :=
  values.zipIdx.map fun pair => ⟨pair.2, pair.1⟩

instance [Slotted P] : Slotted (Numbered P) where
  key package := Slotted.key package.value
  slot package := Slotted.slot package.value
  agrees a b := Slotted.agrees a.value b.value

instance [Restriction R P] : Restriction (Numbered R) (Numbered P) where
  key restriction := Restriction.key (P := P) restriction.value
  blocks restriction package := Restriction.blocks restriction.value package.value

end Numbered

end PackageMetadata
