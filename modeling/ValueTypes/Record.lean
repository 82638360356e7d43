/-
  Records: fixed, ordered sets of named fields, each with its type.

  A field is declared once.  A record validates an object field by field in the order of their
  declaration and stops at the first problem; a missing field is told apart from one whose value
  has the wrong shape.
-/
import ValueTypes.Ty.Build

namespace ValueTypes

/-- A record schema. -/
structure Record (σ : Type) where
  name : String
  fields : List (String × Ty σ)
  distinct : (fields.map Prod.fst).Nodup

namespace Record

variable {σ : Type}

/-- The first name that stands in the list a second time, given the names before it. -/
def firstRepeat (seen : List String) : List String → Option String
  | [] => none
  | n :: ns => if n ∈ seen then some n else firstRepeat (n :: seen) ns

/-- A list without a name that repeats has distinct names. -/
theorem nodup_of_firstRepeat {seen ns : List String} (h : firstRepeat seen ns = none) :
    ns.Nodup ∧ ∀ n ∈ ns, n ∉ seen := by
  induction ns generalizing seen with
  | nil => simp
  | cons n ns ih =>
    unfold firstRepeat at h
    split at h
    · cases h
    · rename_i hn
      obtain ⟨hnd, hseen⟩ := ih h
      refine ⟨List.nodup_cons.2 ⟨fun hm => hseen n hm (by simp), hnd⟩, fun m hm => ?_⟩
      rcases List.mem_cons.1 hm with rfl | hm
      · exact hn
      · exact fun hs => hseen m hm (by simp [hs])

/-- The record of resolved fields, unless one is declared twice. -/
def ofFields (name : String) (fields : List (String × Ty σ)) : Except TypeError (Record σ) :=
  match h : firstRepeat [] (fields.map Prod.fst) with
  | none => .ok ⟨name, fields, (nodup_of_firstRepeat h).1⟩
  | some f =>
    .error (.invalidComposition ("struct " ++ name ++ " declares field :" ++ f ++ " twice"))

/-- The type of a declared field. -/
def field? (r : Record σ) (name : String) : Option (Ty σ) := Entries.get? name r.fields

/-- The object with every declared field built by its type, and no others. -/
def validate [StepMeaning σ] (r : Record σ) (input : Entries Value) :
    Except TypeError (Entries Value) :=
  Ty.buildFields r.fields input

/-- The type of the objects that the record validates. -/
def toTy (r : Record σ) (serial : Nat) : Ty σ :=
  .record ⟨serial, r.name, [], false, none⟩ r.name r.fields

/-- Whether two records are equal: the same name and equal fields in the same order. -/
def same [DecidableEq σ] (r s : Record σ) : Bool :=
  r.name == s.name && Ty.sameFields r.fields s.fields

end Record

end ValueTypes
