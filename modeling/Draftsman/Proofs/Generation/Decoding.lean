/-
Which payloads can be read, and that no generation ends for want of reading.

Reading a model looks at the outer form of a payload alone: it must be an object, or an
array that is not longer than the record has fields. Every reader of a field is total, so
nothing inside can make the reading fail. A payload that has passed the check of its shape
is an object, and therefore the fault that a payload cannot be decoded, although a
generation provides for it, never occurs (`Generation.fallback_ne_undecodable`).
-/
import Draftsman.Generation.Generate
import Draftsman.Proofs.Diagram.Canonical

set_option autoImplicit false

namespace Draftsman

open Draftsman.Lenient

/-! ## Payloads that can be read -/

/-- How many fields the record of a kind of diagram has. -/
def DiagramKind.fieldCount : DiagramKind → Nat
  | classes => 2
  | useCases => 5
  | sequence => 3

@[simp] theorem DiagramKind.length_fields (kind : DiagramKind) :
    kind.fields.length = kind.fieldCount := by
  cases kind <;> rfl

/-- A record is an object, or an array with a value for each of the first fields. -/
theorem Lenient.exists_record?_iff {fields : List String} {value : Json} :
    (∃ record, record? fields value = some record) ↔
      value.isObject = true ∨ ∃ items, value = .array items ∧ items.length ≤ fields.length := by
  cases value with
  | array items =>
    by_cases hlength : items.length ≤ fields.length
    · simp [record?, Json.isObject, hlength]
    · simp [record?, Json.isObject, hlength]
  | _ => simp [record?, Json.isObject]

theorem Model.exists_ofJson_iff {kind : DiagramKind} {value : Json} :
    (∃ m, ofJson kind value = .ok m) ↔
      value.isObject = true ∨ ∃ items, value = .array items ∧ items.length ≤ kind.fieldCount := by
  rw [← kind.length_fields, ← exists_record?_iff]
  constructor
  · rintro ⟨m, hm⟩
    obtain ⟨record, hrecord, -⟩ := ofJson_eq_ok_iff.mp hm
    exact ⟨record, hrecord⟩
  · rintro ⟨record, hrecord⟩
    exact ⟨_, ofJson_eq_ok_iff.mpr ⟨record, hrecord, rfl⟩⟩

/-- Every kind requires some key, and only an object has keys. -/
theorem DiagramKind.isObject_of_fits {kind : DiagramKind} {value : Json} (h : kind.fits value) :
    value.isObject = true := by
  cases value with
  | object members => rfl
  | _ => cases kind <;> exact absurd h Bool.false_ne_true

theorem Model.exists_ofJson_of_fits {kind : DiagramKind} {value : Json} (h : kind.fits value) :
    ∃ m, ofJson kind value = .ok m :=
  exists_ofJson_iff.mpr (.inl (kind.isObject_of_fits h))

/-! ## Generations -/

namespace Generation

open Draftsman.Service

theorem candidate_ne_undecodable (kind : DiagramKind) (completion : Except ServiceError String)
    (reason : String) : candidate kind completion ≠ .error (.undecodable reason) := by
  unfold candidate
  split
  · simp
  · split
    · simp
    · split_ifs with hfits
      · -- the shape has been checked, so there is a model
        obtain ⟨m, hm⟩ := Model.exists_ofJson_of_fits hfits
        simp [hm]
      · simp

/-- An outcome without the model of the service tells the reason that was given. -/
@[simp] theorem Task.fallback_fallBack (t : Task) (reason : Fallback) :
    (t.fallBack reason).fallback = some reason := by
  unfold Task.fallBack
  split <;> rfl

theorem Task.fallback_conclude (t : Task) (result : Except Fallback Model) (reason : Fallback) :
    (t.conclude result).fallback = some reason ↔ result = .error reason := by
  cases result with
  | error e => simp [Task.conclude]
  | ok m => simp [Task.conclude]

theorem fallback_ne_undecodable (hasService : Bool) (tuning : Tuning) (task : Task)
    (ask : Request → Id Reaction) (reason : String) :
    (Id.run ((generate hasService tuning task).run ask)).fallback ≠ some (.undecodable reason) := by
  cases hasService with
  | false =>
    have hsettled : (Id.run ((generate false tuning task).run ask)).fallback
        = some .unavailable := task.fallback_fallBack .unavailable
    simp [hsettled]
  | true =>
    intro h
    exact candidate_ne_undecodable _ _ reason ((task.fallback_conclude _ _).mp h)

/-- **Only the outer form of a payload decides whether it can be read.** So a payload that
fits its kind can, and no run of a generation, whatever its service does, falls back for
a payload that could not be decoded. -/
theorem readable_iff_outer_form :
    (∀ (kind : DiagramKind) (value : Json), (∃ m, Model.ofJson kind value = .ok m) ↔
        value.isObject = true ∨ ∃ items, value = .array items ∧ items.length ≤ kind.fieldCount) ∧
      (∀ (kind : DiagramKind) (value : Json), kind.fits value →
        ∃ m, Model.ofJson kind value = .ok m) ∧
      ∀ hasService tuning task ask reason,
        (Id.run ((generate hasService tuning task).run ask)).fallback
          ≠ some (.undecodable reason) :=
  ⟨fun _ _ => Model.exists_ofJson_iff, fun _ _ => Model.exists_ofJson_of_fits,
    fallback_ne_undecodable⟩

/-- An object with the two lists of a class diagram, the lists full of things that are no
classes and no relationships. -/
theorem readable_iff_outer_form_of_junk :
    DiagramKind.classes.fits (.object [("classes", .array [.null, .array [.null], .bool false]),
        ("relationships", .array [.object [("from", .array []), ("type", .bool true)]])]) = true ∧
    ∃ m, Model.ofJson .classes
      (.object [("classes", .array [.null, .array [.null], .bool false]),
        ("relationships", .array [.object [("from", .array []), ("type", .bool true)]])]) = .ok m :=
  have h := by decide
  ⟨h, readable_iff_outer_form.2.1 _ _ h⟩

end Generation

end Draftsman
