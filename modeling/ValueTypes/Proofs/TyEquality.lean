/-
  Structural equality of types, and outcomes that agree up to it.

  `Ty.same` compares every part of a type but the number of the instance.  It is reflexive because
  equality of values is: doubles are finite, so each of them is the same as itself.  Two outcomes of
  a composition or a resolution agree (`Ty.Agree`) if they fail with one error or give types that
  are the same.  Attaching members keeps agreement: the error of `Ty.withMember` does not look at
  the new members, and the name it gives looks at their name only.
-/
import ValueTypes.Ty

namespace ValueTypes

theorem Double.same_refl (x : Double) : x.same x = true := by simp [Double.same]

namespace Value

mutual

theorem same_refl : ∀ v : Value, v.same v = true
  | null => rfl
  | bool b => by simp [same]
  | int n => by simp [same]
  | float x => x.same_refl
  | str s => by simp [same]
  | arr items => sameItems_refl items
  | obj fields => sameFields_refl fields

theorem sameItems_refl : ∀ items : List Value, sameItems items items = true
  | [] => rfl
  | v :: vs => by rw [sameItems, same_refl v, sameItems_refl vs]; rfl

theorem sameFields_refl : ∀ fields : List (String × Value), sameFields fields fields = true
  | [] => rfl
  | (k, v) :: fs => by simp [sameFields, same_refl v, sameFields_refl fs]

end

end Value

namespace Ty

variable {σ : Type} [DecidableEq σ]

theorem sameFallback_refl (v : Option Value) : sameFallback v v = true := by
  cases v with
  | none => rfl
  | some v => exact v.same_refl

theorem sameEnvelope_refl (e : Envelope σ) : sameEnvelope e e = true := by
  simp [sameEnvelope, sameFallback_refl]

mutual

theorem same_refl : ∀ t : Ty σ, t.same t = true
  | plain e k => by simp [same, sameEnvelope_refl]
  | list e m => by rw [same, sameEnvelope_refl, same_refl m]; rfl
  | record e schema fields => by simp [same, sameEnvelope_refl, sameFields_refl fields]

theorem sameFields_refl : ∀ fields : List (String × Ty σ), sameFields fields fields = true
  | [] => rfl
  | (f, t) :: fs => by simp [sameFields, same_refl t, sameFields_refl fs]

end

theorem name_eq_of_sameEnvelope {e f : Envelope σ} (h : sameEnvelope e f = true) :
    e.name = f.name := by
  simp only [sameEnvelope, Bool.and_eq_true, beq_iff_eq] at h
  exact h.1.1.1

theorem name_eq_of_same {a b : Ty σ} (h : a.same b = true) : a.name = b.name := by
  cases a with
  | plain e k =>
    cases b with
    | plain f l =>
      simp only [same, Bool.and_eq_true] at h
      exact name_eq_of_sameEnvelope h.1
    | list | record => cases h
  | list e m =>
    cases b with
    | list f n =>
      simp only [same, Bool.and_eq_true] at h
      exact name_eq_of_sameEnvelope h.1
    | plain | record => cases h
  | record e s fs =>
    cases b with
    | record f t gs =>
      simp only [same, Bool.and_eq_true] at h
      exact name_eq_of_sameEnvelope h.1.1
    | plain | list => cases h

/-! ## Outcomes that agree -/

/-- Both outcomes are one error, or both are types that are the same. -/
def Agree : Except TypeError (Ty σ) → Except TypeError (Ty σ) → Prop
  | .ok a, .ok b => a.same b = true
  | .error d, .error e => d = e
  | _, _ => False

theorem Agree.refl : ∀ o : Except TypeError (Ty σ), Agree o o
  | .ok t => t.same_refl
  | .error _ => rfl

/-- Two equal envelopes stay equal under one new name. -/
theorem sameEnvelope_renamed {e f : Envelope σ} (h : sameEnvelope e f = true) (m n : Nat)
    (name : String) :
    sameEnvelope { e with serial := m, name := name } { f with serial := n, name := name } := by
  simp only [sameEnvelope, Bool.and_eq_true] at h ⊢
  exact ⟨⟨⟨beq_self_eq_true _, h.1.1.2⟩, h.1.2⟩, h.2⟩

/-- Containers that are the same take members that are the same to outcomes that agree. -/
theorem withMember_agree {u v a b : Ty σ} (huv : u.same v = true) (hab : a.same b = true)
    (m n : Nat) : Agree (u.withMember m a) (v.withMember n b) := by
  have hname : u.name = v.name := name_eq_of_same huv
  cases u with
  | plain e k =>
    cases v with
    | plain f l =>
      simp only [same, Bool.and_eq_true, decide_eq_true_eq] at huv
      obtain ⟨henv, rfl⟩ := huv
      cases hk : k.isCollection with
      | true =>
        simp only [withMember, hk, if_true, Agree, same, Bool.and_eq_true]
        refine ⟨?_, hab⟩
        rw [name_eq_of_same hab, show e.name = f.name from hname]
        exact sameEnvelope_renamed henv m n _
      | false =>
        simp only [withMember, hk, withMember.refusal, hname]
        rfl
    | list | record => cases huv
  | list e member =>
    cases v with
    | list f other =>
      simp only [same, Bool.and_eq_true] at huv
      simp only [withMember, hname, name_eq_of_same huv.2]
      rfl
    | plain | record => cases huv
  | record e schema fields =>
    cases v with
    | record f schema' fields' =>
      simp only [withMember, withMember.refusal, hname]
      rfl
    | plain | list => cases huv

end Ty

end ValueTypes
