/-
  Where an error points.

  A failure inside lists is reported at the first place that fails.  `Ty.Leads t v place u x` says
  that the indices of `place` lead from `v` to `x` and from the type `t` to the type `u` of its
  members, and that on every level the items before the index are built.  `Ty.FailsItself u x e`
  says that `u` fails on `x` by what it is itself: by a step, by its kind, or by the first declared
  field that is missing or refused; the error of a refused field is the source of the new one, and
  its place starts anew.

  The place is written in front of the error as a text: its indices in decimal digits, the outermost
  first, with dots between them (`placeText`).  `TypeError.Located` says for each error what it is once
  the place stands in front: the key of a wrong value and the name of a field grow, by a dot where
  there was a key before, and everything else about an error stays as it is.

  The place of an error grows from the inside out, by one index a level.  Putting one more index in
  front of a located error locates it one level further out (`TypeError.Located.item`), so the main
  result is an induction on the type (`build_error_at_first_place`): a list hands the place of its
  first failing item on, and all other types fail themselves.
-/
import ValueTypes.Proofs.Build

namespace ValueTypes

/-! ## Places -/

/-- The text of a place: its indices in decimal digits, the outermost first, with dots between. -/
def placeText (place : List Nat) : String := ".".intercalate (place.map toString)

@[simp] theorem placeText_cons_cons (i j : Nat) (place : List Nat) :
    placeText (i :: j :: place) = toString i ++ "." ++ placeText (j :: place) := by
  simp only [placeText, List.map_cons, String.intercalate_cons_cons]

/-- The key of an item is its index in decimal digits. -/
theorem indexKey_eq_toString (i : Nat) : indexKey i = toString i := rfl

namespace TypeError

/-- `Located place e₀ e`: the error `e₀` that is raised where `place` leads is `e` for whoever
    builds the value as a whole. -/
inductive Located : List Nat → TypeError → TypeError → Prop where
  /-- Without a way to go, the error is as it was raised. -/
  | here (e : TypeError) : Located [] e e
  /-- A wrong value without a key has the place for its key. -/
  | value (i : Nat) (place : List Nat) (v : Value) (expected : String) :
    Located (i :: place) (.invalidValue none v expected)
      (.invalidValue (some (placeText (i :: place))) v expected)
  /-- A key that was there follows the place. -/
  | valueAt (i : Nat) (place : List Nat) (key : String) (v : Value) (expected : String) :
    Located (i :: place) (.invalidValue (some key) v expected)
      (.invalidValue (some (placeText (i :: place) ++ "." ++ key)) v expected)
  | missingField (i : Nat) (place : List Nat) (field : String) :
    Located (i :: place) (.missingField field) (.missingField (placeText (i :: place) ++ "." ++ field))
  /-- The source of a refused field keeps the place that it has within the field. -/
  | invalidField (i : Nat) (place : List Nat) (field : String) (v : Value) (expected : String)
    (source : TypeError) :
    Located (i :: place) (.invalidField field v expected source)
      (.invalidField (placeText (i :: place) ++ "." ++ field) v expected source)
  -- what is wrong with the types themselves has no place in a value
  | unknownType (i : Nat) (place : List Nat) (name : String) :
    Located (i :: place) (.unknownType name) (.unknownType name)
  | invalidComposition (i : Nat) (place : List Nat) (reason : String) :
    Located (i :: place) (.invalidComposition reason) (.invalidComposition reason)
  | malformedSpec (i : Nat) (place : List Nat) (spec reason : String) :
    Located (i :: place) (.malformedSpec spec reason) (.malformedSpec spec reason)
  | unknownBuilder (i : Nat) (place : List Nat) (name : String) :
    Located (i :: place) (.unknownBuilder name) (.unknownBuilder name)

/-- An error that an item raises itself is located by the index of the item. -/
theorem located_item_here (i : Nat) (e : TypeError) : Located [i] e (e.atKey (indexKey i)) := by
  cases e with
  | invalidValue key v expected =>
    cases key with
    | none => exact .value i [] v expected
    | some key => exact .valueAt i [] key v expected
  | missingField field => exact .missingField i [] field
  | invalidField field v expected source => exact .invalidField i [] field v expected source
  | unknownType name => exact .unknownType i [] name
  | invalidComposition reason => exact .invalidComposition i [] reason
  | malformedSpec spec reason => exact .malformedSpec i [] spec reason
  | unknownBuilder name => exact .unknownBuilder i [] name

/-- One level further out, the index of the item stands in front of the place. -/
theorem Located.item {place : List Nat} {e₀ e : TypeError} (h : Located place e₀ e) (i : Nat) :
    Located (i :: place) e₀ (e.atKey (indexKey i)) := by
  have hjoin (j : Nat) (place : List Nat) (key : String) :
      placeText (i :: j :: place) ++ "." ++ key =
        toString i ++ "." ++ (placeText (j :: place) ++ "." ++ key) := by
    simp only [placeText_cons_cons, String.append_assoc]
  cases h with
  | here => exact located_item_here i e₀
  | value j place v expected =>
    simpa only [placeText_cons_cons, indexKey_eq_toString, atKey, joinPath] using
      Located.value i (j :: place) v expected
  | valueAt j place key v expected =>
    simpa only [hjoin, indexKey_eq_toString, atKey, joinPath] using
      Located.valueAt i (j :: place) key v expected
  | missingField j place field =>
    simpa only [hjoin, indexKey_eq_toString, atKey, joinPath] using
      Located.missingField i (j :: place) field
  | invalidField j place field v expected source =>
    simpa only [hjoin, indexKey_eq_toString, atKey, joinPath] using
      Located.invalidField i (j :: place) field v expected source
  | unknownType j place name => exact .unknownType i (j :: place) name
  | invalidComposition j place reason => exact .invalidComposition i (j :: place) reason
  | malformedSpec j place spec reason => exact .malformedSpec i (j :: place) spec reason
  | unknownBuilder j place name => exact .unknownBuilder i (j :: place) name

end TypeError

namespace Ty

variable {σ : Type} [StepMeaning σ]

/-- The indices lead from the value to `x` and from the type to the type of the members there, past
    items that are built. -/
inductive Leads : Ty σ → Value → List Nat → Ty σ → Value → Prop where
  | here (t : Ty σ) (v : Value) : Leads t v [] t v
  | item {e : Envelope σ} {m u : Ty σ} {before after : List Value} {y x : Value} {place : List Nat}
    (hbefore : ∀ z ∈ before, ∃ w, m.build z = .ok w) (h : Leads m y place u x) :
    Leads (.list e m) (.arr (before ++ y :: after)) (before.length :: place) u x

/-! ## Failures of a type itself -/

/-- The type fails on the value, and not in an item of it. -/
inductive FailsItself : Ty σ → Value → TypeError → Prop where
  /-- A step fails. -/
  | step {t : Ty σ} {x : Value} {e : TypeError} (h : t.envelope.Refuses x e) : FailsItself t x e
  /-- The value is not of the kind. -/
  | kind {t : Ty σ} {x : Value} (hsteps : t.steps = []) (h : t.kind.accepts x = false) :
    FailsItself t x (.invalidValue none x t.kind.name)
  /-- What the steps make of the value is not of the kind. -/
  | result {t : Ty σ} {x w : Value} (hsteps : t.steps ≠ []) (hpass : t.envelope.Passes x w)
    (h : t.kind.accepts w = false) : FailsItself t x (.invalidValue none w t.kind.name)
  /-- A declared field is missing or refused, and all fields before it are built. -/
  | field {env : Envelope σ} {schema : String} {before after : List (String × Ty σ)} {f : String}
    {t : Ty σ} {input : Entries Value} {e : TypeError}
    (hbefore : ∀ p ∈ before, ∃ w, FieldBuilds input p.1 p.2 w) (h : FieldFails input f t e) :
    FailsItself (.record env schema (before ++ (f, t) :: after)) (.obj input) e

/-- Only types that are neither lists with members nor records have steps, from the type down to the
    innermost members. -/
def StepsAtLeaves (t : Ty σ) : Prop :=
  ∀ u ∈ t.chain, u.member?.isSome = true ∨ u.schema?.isSome = true → u.steps = []

variable {t : Ty σ} {v x w : Value} {e : TypeError}

/-- A type whose body gets a value that is not of the kind fails itself. -/
theorem failsItself_of_check (hpass : t.envelope.Passes x w) (h : t.kind.check w = .error e) :
    t.FailsItself x e := by
  obtain ⟨hkind, rfl⟩ := Kind.check_eq_error_iff.1 h
  by_cases hsteps : t.steps = []
  · obtain rfl := hpass.eq_of_steps hsteps
    exact .kind hsteps hkind
  · exact .result hsteps hpass hkind

/-- **The place of an error.**  Where only leaves have steps, an error of a type is the error of the
    first place that fails: indices lead there past items that are built, the type reached fails
    itself on the value reached, and the error is its own one with the place in front. -/
theorem build_error_at_first_place (hleaves : t.StepsAtLeaves) (h : t.build v = .error e) :
    ∃ place u x e₀, t.Leads v place u x ∧ u.build x = .error e₀ ∧ u.FailsItself x e₀ ∧
      TypeError.Located place e₀ e := by
  induction t generalizing v e with
  | plain env k =>
    refine ⟨[], plain env k, v, e, .here _ _, h, ?_, .here e⟩
    obtain ⟨-, href | ⟨w, hpass, hbody⟩⟩ := build_eq_error_iff.1 h
    · exact .step href
    · exact failsItself_of_check hpass hbody
  | list env m ih =>
    have hsteps : env.steps = [] := hleaves _ List.mem_cons_self (.inl rfl)
    obtain ⟨-, href | ⟨w, hpass, hbody⟩⟩ := build_eq_error_iff.1 h
    · exact absurd hsteps href.steps_ne_nil
    -- what the body gets is the value itself, so an index into the one is an index into the other
    · rcases body_list_eq_error_iff.1 hbody with hkind | ⟨items, rfl, hitems⟩
      · exact ⟨[], list env m, v, e, .here _ _, h, failsItself_of_check hpass hkind, .here e⟩
      · obtain rfl : v = .arr items := (hpass.eq_of_steps hsteps).symm
        obtain ⟨before, y, after, rfl, hbefore, e', hy, rfl⟩ := buildItems_eq_error_iff.1 hitems
        have hinner : m.StepsAtLeaves := fun u hu => hleaves u (List.mem_cons_of_mem _ hu)
        obtain ⟨place, u, x, e₀, hleads, hbuild, hfails, hlocated⟩ := ih hinner hy
        refine ⟨before.length :: place, u, x, e₀, .item hbefore hleads, hbuild, hfails, ?_⟩
        -- the index of the item goes in front of the place that the members report
        rw [Nat.zero_add]
        exact hlocated.item before.length
  | record env schema fields =>
    have hsteps : env.steps = [] := hleaves _ List.mem_cons_self (.inr rfl)
    refine ⟨[], record env schema fields, v, e, .here _ _, h, ?_, .here e⟩
    obtain ⟨-, href | ⟨w, hpass, hbody⟩⟩ := build_eq_error_iff.1 h
    · exact .step href
    · rcases body_record_eq_error_iff.1 hbody with hkind | ⟨input, rfl, hfields⟩
      · exact failsItself_of_check hpass hkind
      · obtain rfl : v = .obj input := (hpass.eq_of_steps hsteps).symm
        obtain ⟨before, ⟨f, t⟩, after, rfl, hbefore, hfail⟩ := buildFields_eq_error_iff.1 hfields
        exact .field hbefore hfail

/-- Three tables that fail: a label that is no text, a cell without its label behind ten good ones,
    and a number in the place of a cell. -/
theorem build_error_at_first_place_at_rows :
    let cell : Ty Empty := record ⟨0, "Cell", [], false, none⟩ "Cell" [("label", nominal 1 .string)]
    let row : Ty Empty := list ⟨2, "array<cell>", [], false, none⟩ cell
    let t : Ty Empty := list ⟨3, "array<array<cell>>", [], false, none⟩ row
    let good : Value := .obj [("label", .str "a")]
    let mistyped : Value := .arr [.arr [good, good], .arr [], .arr [.obj [("label", .int 1)]]]
    let unlabelled : Value := .arr [.arr [], .arr (List.replicate 10 good ++ [.obj []])]
    let misplaced : Value := .arr [.arr [good, good, .int 7]]
    t.StepsAtLeaves ∧
      ∀ p ∈ [
          (mistyped, TypeError.invalidField "2.0.label" (.int 1) "string"
            (.invalidValue none (.int 1) "string")),
          (unlabelled, TypeError.missingField "1.10.label"),
          (misplaced, TypeError.invalidValue (some "0.2") (.int 7) "hash")],
        t.build p.1 = .error p.2 ∧
          ∃ place u x e₀, t.Leads p.1 place u x ∧ u.build x = .error e₀ ∧ u.FailsItself x e₀ ∧
            TypeError.Located place e₀ p.2 := by
  intro cell row t good mistyped unlabelled misplaced
  have hleaves : t.StepsAtLeaves := by
    intro u hu _
    rw [show t.chain = [t, row, cell] from rfl] at hu
    simp only [List.mem_cons, List.not_mem_nil, or_false] at hu
    rcases hu with rfl | rfl | rfl <;> rfl
  refine ⟨hleaves, fun p hp => ?_⟩
  have herror : t.build p.1 = .error p.2 := by
    simp only [List.mem_cons, List.not_mem_nil, or_false] at hp
    rcases hp with rfl | rfl | rfl <;> rfl
  exact ⟨herror, build_error_at_first_place hleaves herror⟩

end Ty

end ValueTypes
