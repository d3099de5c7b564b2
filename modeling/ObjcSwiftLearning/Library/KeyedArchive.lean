import Mathlib.Data.List.Basic
import Mathlib.Tactic.Common

/-!
# Keyed archives whose readers name a class

An object writes its fields under keys; a reader asks for the object under a key and names
the class it expects.  What is stored under another class is not returned.

* `Coding` — how the objects of one type are written and read.  Reading may fail, and may
  end without an object.
* `Coding.decodeObject_encode` — a field comes back when the class named covers the class
  written.
* `Coding.decodeObject_of_mismatch` — and is lost when it does not.
* `Coding.Faithful` — a coding that returns what was written; `Coding.object` builds one
  from the keyed fields of an object, `Coding.faithful_array` those of collections.
* `Coding.decodeElements_encode_iff` — a collection comes back exactly when its elements do.
-/

/-- An archived value: bytes or the like, a collection, or an object with keyed fields. -/
inductive Archived (κ δ : Type) where
  | leaf (cls : κ) (value : δ)
  | array (cls : κ) (elements : List (Archived κ δ))
  | object (cls : κ) (fields : List (String × Archived κ δ))

namespace Archived

variable {κ δ : Type}

/-- The class a value was written under. -/
def cls : Archived κ δ → κ
  | leaf cls _ => cls
  | array cls _ => cls
  | object cls _ => cls

end Archived

abbrev KeyedFields (κ δ : Type) := List (String × Archived κ δ)

theorem KeyedFields.lookup_singleton {κ δ : Type} {key other : String} {value : Archived κ δ} :
    ([(key, value)] : KeyedFields κ δ).lookup other =
      if other == key then some value else none := by
  rw [List.lookup_cons]
  cases other == key <;> rfl

/-- How the objects of a type are archived.  A reader fails with an `ε`, or returns no
object. -/
structure Coding (ε κ δ α : Type) where
  /-- The class they are written under. -/
  cls : κ
  encode : α → Archived κ δ
  decode : Archived κ δ → Except ε (Option α)
  cls_encode : ∀ a, (encode a).cls = cls

namespace Coding

variable {ε κ δ α : Type} (coding : Coding ε κ δ α)

/-- Write a field, unless there is nothing to write. -/
def encodeObject (key : String) : Option α → KeyedFields κ δ
  | none => []
  | some a => [(key, coding.encode a)]

/-- Read the field under a key as an object of the class `expected`. -/
def decodeObject (isKindOf : κ → κ → Bool) (expected : κ) (key : String)
    (fields : KeyedFields κ δ) : Except ε (Option α) :=
  match fields.lookup key with
  | none => .ok none
  | some value => if isKindOf value.cls expected then coding.decode value else .ok none

variable {coding} {isKindOf : κ → κ → Bool} {expected : κ} {key : String}
  {fields : KeyedFields κ δ} {a : α}

@[simp] theorem lookup_encodeObject {other : String} {value : Option α} :
    (coding.encodeObject key value).lookup other =
      if other == key then value.map coding.encode else none := by
  cases value with
  | none => simp [encodeObject]
  | some a => exact KeyedFields.lookup_singleton

theorem decodeObject_of_absent (h : fields.lookup key = none) :
    coding.decodeObject isKindOf expected key fields = .ok none := by
  rw [decodeObject, h]

/-- A field is read back under a class that covers its own. -/
theorem decodeObject_encode (h : fields.lookup key = some (coding.encode a))
    (hkind : isKindOf coding.cls expected = true) :
    coding.decodeObject isKindOf expected key fields = coding.decode (coding.encode a) := by
  rw [decodeObject, h]
  simp only [coding.cls_encode, hkind, if_true]

theorem decodeObject_of_mismatch (h : fields.lookup key = some (coding.encode a))
    (hkind : isKindOf coding.cls expected = false) :
    coding.decodeObject isKindOf expected key fields = .ok none := by
  rw [decodeObject, h]
  simp [coding.cls_encode, hkind]

/-- What is written is what is read. -/
def Faithful (coding : Coding ε κ δ α) : Prop :=
  ∀ a, coding.decode (coding.encode a) = .ok (some a)

/-- **A field that may be absent is read back**, if its coding is faithful and the class
named covers its own. -/
theorem Faithful.decodeObject (faithful : coding.Faithful) {value : Option α}
    (h : fields.lookup key = value.map coding.encode)
    (hkind : isKindOf coding.cls expected = true) :
    coding.decodeObject isKindOf expected key fields = .ok value := by
  cases value with
  | none => exact decodeObject_of_absent h
  | some a => rw [decodeObject_encode h hkind, faithful]

/-! ## Objects -/

def object (cls : κ) (encodeWithCoder : α → KeyedFields κ δ)
    (initWithCoder : KeyedFields κ δ → Except ε (Option α)) : Coding ε κ δ α where
  cls := cls
  encode a := .object cls (encodeWithCoder a)
  decode
    | .object _ fields => initWithCoder fields
    | _ => .ok none
  cls_encode _ := rfl

/-! ## Collections -/

/-- Read the elements in order, up to the first failure; an element that is not an object
of the type is left out. -/
def decodeElements (coding : Coding ε κ δ α) : List (Archived κ δ) → Except ε (List α)
  | [] => .ok []
  | element :: elements =>
      match coding.decode element with
      | .error failure => .error failure
      | .ok object =>
          match decodeElements coding elements with
          | .error failure => .error failure
          | .ok objects => .ok (object.toList ++ objects)

/-- Collections of the class `arrayCls`. -/
def array (coding : Coding ε κ δ α) (arrayCls : κ) : Coding ε κ δ (List α) where
  cls := arrayCls
  encode objects := .array arrayCls (objects.map coding.encode)
  decode
    | .array _ elements => (coding.decodeElements elements).map some
    | _ => .ok none
  cls_encode _ := rfl

/-- **Collections are read back**, element by element. -/
theorem Faithful.decodeElements (faithful : coding.Faithful) (objects : List α) :
    coding.decodeElements (objects.map coding.encode) = .ok objects := by
  induction objects with
  | nil => rfl
  | cons object objects ih => simp [Coding.decodeElements, faithful object, ih]

theorem faithful_array (faithful : coding.Faithful) (arrayCls : κ) :
    (coding.array arrayCls).Faithful := by
  intro objects
  simp [array, faithful.decodeElements, Except.map]

/-- A collection does not grow. -/
theorem length_decodeElements {elements : List (Archived κ δ)} {objects : List α}
    (h : coding.decodeElements elements = .ok objects) : objects.length ≤ elements.length := by
  induction elements generalizing objects with
  | nil =>
      obtain rfl := Except.ok.inj h
      exact Nat.le_refl _
  | cons element elements ih =>
      rw [Coding.decodeElements] at h
      split at h
      · cases h
      · rename_i object _
        split at h
        · cases h
        · rename_i objects' hobjects
          obtain rfl := Except.ok.inj h
          have hlength := ih hobjects
          have hobject : object.toList.length ≤ 1 := by cases object <;> simp
          simp only [List.length_append, List.length_cons]
          omega

/-- **A collection comes back exactly when each of its elements does.** -/
theorem decodeElements_encode_iff {objects : List α} :
    coding.decodeElements (objects.map coding.encode) = .ok objects ↔
      ∀ a ∈ objects, coding.decode (coding.encode a) = .ok (some a) := by
  induction objects with
  | nil => simp [Coding.decodeElements]
  | cons a objects ih =>
      rw [List.forall_mem_cons, ← ih, List.map_cons, Coding.decodeElements]
      constructor
      · intro h
        split at h
        · cases h
        · rename_i object hobject
          split at h
          · cases h
          · rename_i objects' hobjects
            have happend := Except.ok.inj h
            have hlength := length_decodeElements hobjects
            rw [List.length_map] at hlength
            cases object with
            | none =>
                rw [show objects' = a :: objects from happend, List.length_cons] at hlength
                omega
            | some a' =>
                obtain ⟨rfl, rfl⟩ := List.cons.inj happend
                exact ⟨hobject, hobjects⟩
      · rintro ⟨hobject, hobjects⟩
        simp [hobject, hobjects]

end Coding
