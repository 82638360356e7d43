/-
  Finite maps from strings, kept as lists in the order of their keys.

  `Entries` are the lists: look-up, insertion, removal and filtering on pairs whose keys increase
  strictly by code point.  `Dict` carries the proof that they do, so a map has one form only:
  lists with the same look-ups are equal (`Entries.Sorted.ext`).  Main facts: one equation per
  operation through `get?`.
-/

namespace ValueTypes

universe u

/-- Pairs of a key and a value. -/
abbrev Entries (α : Type u) := List (String × α)

namespace Entries

variable {α : Type u}

/-- The keys increase strictly. -/
def Sorted (es : Entries α) : Prop := es.Pairwise fun a b => a.1 < b.1

/-- The value of the first pair with key `k`. -/
def get? (k : String) : Entries α → Option α
  | [] => none
  | (k', v) :: es => if k = k' then some v else get? k es

/-- Puts a pair in its place, over a pair of the same key. -/
def insert (k : String) (v : α) : Entries α → Entries α
  | [] => [(k, v)]
  | (k', v') :: es =>
    if k < k' then (k, v) :: (k', v') :: es
    else if k = k' then (k, v) :: es
    else (k', v') :: insert k v es

/-- The pairs put one after another into an empty list. -/
def ofList (es : Entries α) : Entries α := es.foldl (fun acc e => acc.insert e.1 e.2) []

/-- What stands in the list after an insertion is what was put there or stood there before. -/
theorem mem_insert {k : String} {v : α} {es : Entries α} {e : String × α}
    (h : e ∈ es.insert k v) : e = (k, v) ∨ e ∈ es := by
  induction es with
  | nil => simpa [insert] using h
  | cons a es ih =>
    obtain ⟨k', v'⟩ := a
    unfold insert at h
    split at h
    · simpa using h
    · split at h
      · rcases List.mem_cons.1 h with h | h <;> simp [h]
      · rcases List.mem_cons.1 h with h | h
        · simp [h]
        · rcases ih h with h | h <;> simp [h]

theorem lt_of_not {a b : String} (h : ¬a < b) (hne : a ≠ b) : b < a := by
  rcases String.le_total a b with hab | hba
  · exact absurd (String.le_antisymm hab (String.not_lt.1 h)) hne
  · refine String.not_le.1 fun hab => hne (String.le_antisymm hab (String.not_lt.1 h))

/-- Insertion keeps the order. -/
theorem Sorted.insert {es : Entries α} (h : es.Sorted) (k : String) (v : α) :
    (es.insert k v).Sorted := by
  induction es with
  | nil => simp [Entries.insert, Sorted]
  | cons a es ih =>
    obtain ⟨k', v'⟩ := a
    have hh : ∀ e ∈ es, k' < e.1 := (List.pairwise_cons.1 h).1
    have ht : Sorted es := (List.pairwise_cons.1 h).2
    unfold Entries.insert
    split
    · rename_i hlt
      refine List.pairwise_cons.2 ⟨fun e he => ?_, h⟩
      rcases List.mem_cons.1 he with rfl | he
      · exact hlt
      · exact String.lt_trans hlt (hh e he)
    · rename_i hlt
      split
      · rename_i heq
        exact List.pairwise_cons.2 ⟨fun e he => heq ▸ hh e he, ht⟩
      · rename_i hne
        refine List.pairwise_cons.2 ⟨fun e he => ?_, ih ht⟩
        rcases mem_insert he with rfl | he
        · exact lt_of_not hlt hne
        · exact hh e he

theorem Sorted.filter {es : Entries α} (h : es.Sorted) (p : String × α → Bool) :
    Sorted (es.filter p) := List.Pairwise.filter p h

/-- Insertion changes the look-up of its own key only. -/
theorem get?_insert (k j : String) (v : α) (es : Entries α) :
    (es.insert k v).get? j = if j = k then some v else es.get? j := by
  induction es with
  | nil => simp [insert, get?]
  | cons a es ih =>
    obtain ⟨k', v'⟩ := a
    unfold insert
    split
    · simp only [get?]
    · split
      · rename_i heq
        subst heq
        simp only [get?]
        split <;> rfl
      · rename_i hne
        simp only [get?, ih]
        split
        · rename_i hj
          subst hj
          rw [if_neg fun h => hne h.symm]
        · rfl

theorem get?_eq_none {k : String} {es : Entries α} (h : ∀ e ∈ es, e.1 ≠ k) :
    es.get? k = none := by
  induction es with
  | nil => rfl
  | cons a es ih =>
    rw [get?, if_neg fun hk => h a (by simp) hk.symm]
    exact ih fun e he => h e (by simp [he])

/-- What look-up finds is in the list. -/
theorem mem_of_get? {k : String} {v : α} {es : Entries α} (h : es.get? k = some v) :
    (k, v) ∈ es := by
  induction es with
  | nil => simp [get?] at h
  | cons a es ih =>
    obtain ⟨k', v'⟩ := a
    rw [get?] at h
    split at h
    · rename_i hk
      cases h
      simp [hk]
    · exact List.mem_cons_of_mem _ (ih h)

/-- In a sorted list, look-up finds everything that is there. -/
theorem Sorted.get?_of_mem {es : Entries α} (h : es.Sorted) {k : String} {v : α}
    (hm : (k, v) ∈ es) : es.get? k = some v := by
  induction es with
  | nil => simp at hm
  | cons a es ih =>
    obtain ⟨k', v'⟩ := a
    rw [get?]
    rcases List.mem_cons.1 hm with he | hm'
    · cases he
      simp
    · have := (List.pairwise_cons.1 h).1 _ hm'
      have hne : k ≠ k' := fun hk => String.lt_irrefl k' (hk ▸ this)
      rw [if_neg hne]
      exact ih (List.pairwise_cons.1 h).2 hm'

/-- Filtering drops what is found under a key, or leaves it. -/
theorem Sorted.get?_filter {es : Entries α} (h : es.Sorted) (p : String × α → Bool) (k : String) :
    Entries.get? k (es.filter p) = (es.get? k).filter fun v => p (k, v) := by
  cases hg : es.get? k with
  | none =>
    refine get?_eq_none fun e he hk => ?_
    have := h.get?_of_mem (k := k) (v := e.2) (hk ▸ (List.mem_filter.1 he).1)
    simp [hg] at this
  | some v =>
    have hm := mem_of_get? hg
    by_cases hp : p (k, v) = true
    · rw [(h.filter p).get?_of_mem (List.mem_filter.2 ⟨hm, hp⟩)]
      simp [Option.filter, hp]
    · rw [get?_eq_none]
      · simp [Option.filter, hp]
      · intro e he hk
        obtain ⟨he, hpe⟩ := List.mem_filter.1 he
        have := h.get?_of_mem (k := k) (v := e.2) (hk ▸ he)
        rw [hg] at this
        cases this
        exact hp (hk ▸ hpe)

/-- Sorted lists with the same look-ups are equal. -/
theorem Sorted.ext {es fs : Entries α} (he : es.Sorted) (hf : fs.Sorted)
    (h : ∀ k, es.get? k = fs.get? k) : es = fs := by
  induction es generalizing fs with
  | nil =>
    cases fs with
    | nil => rfl
    | cons b fs => simpa [get?] using h b.1
  | cons a es ih =>
    cases fs with
    | nil => simpa [get?] using h a.1
    | cons b fs =>
      obtain ⟨ka, va⟩ := a
      obtain ⟨kb, vb⟩ := b
      have hea := (List.pairwise_cons.1 he).1
      have hfb := (List.pairwise_cons.1 hf).1
      have hk : ka = kb := by
        have ha := mem_of_get? (by simpa [get?] using (h ka).symm : get? ka ((kb, vb) :: fs) = some va)
        have hb := mem_of_get? (by simpa [get?] using h kb : get? kb ((ka, va) :: es) = some vb)
        rcases List.mem_cons.1 ha with ha | ha
        · exact congrArg Prod.fst ha
        · rcases List.mem_cons.1 hb with hb | hb
          · exact (congrArg Prod.fst hb).symm
          · exact absurd (hfb _ ha) (String.lt_asymm (hea _ hb))
      subst hk
      have hv : va = vb := by simpa [get?] using h ka
      subst hv
      congr 1
      refine ih (List.pairwise_cons.1 he).2 (List.pairwise_cons.1 hf).2 fun k => ?_
      by_cases hka : k = ka
      · subst hka
        rw [get?_eq_none fun e he' hk => String.lt_irrefl k (by simpa [hk] using hea e he'),
          get?_eq_none fun e he' hk => String.lt_irrefl k (by simpa [hk] using hfb e he')]
      · simpa [get?, hka] using h k

end Entries

/-! ## Maps -/

/-- A finite map from strings. -/
structure Dict (α : Type u) where
  entries : Entries α
  sorted : entries.Sorted

namespace Dict

variable {α : Type u}

def empty : Dict α := ⟨[], List.Pairwise.nil⟩

instance : Inhabited (Dict α) := ⟨empty⟩

def get? (d : Dict α) (k : String) : Option α := d.entries.get? k

def contains (d : Dict α) (k : String) : Bool := (d.get? k).isSome

/-- The keys, in increasing order. -/
def keys (d : Dict α) : List String := d.entries.map Prod.fst

def size (d : Dict α) : Nat := d.entries.length

def isEmpty (d : Dict α) : Bool := d.entries.isEmpty

def insert (d : Dict α) (k : String) (v : α) : Dict α := ⟨d.entries.insert k v, d.sorted.insert k v⟩

/-- The map of the keys that `p` holds of. -/
def keep (d : Dict α) (p : String → Bool) : Dict α :=
  ⟨d.entries.filter fun e => p e.1, d.sorted.filter _⟩

def erase (d : Dict α) (k : String) : Dict α := d.keep fun k' => k' != k

@[simp] theorem get?_empty (k : String) : (empty : Dict α).get? k = none := rfl

/-- Insertion changes the look-up of its own key only. -/
theorem get?_insert (d : Dict α) (k j : String) (v : α) :
    (d.insert k v).get? j = if j = k then some v else d.get? j :=
  Entries.get?_insert k j v d.entries

@[simp] theorem get?_insert_self (d : Dict α) (k : String) (v : α) :
    (d.insert k v).get? k = some v := by simp [get?_insert]

theorem get?_insert_of_ne (d : Dict α) {k j : String} (v : α) (h : j ≠ k) :
    (d.insert k v).get? j = d.get? j := by simp [get?_insert, h]

/-- Keeping the keys that pass a test changes what is found under the others only. -/
theorem get?_keep (d : Dict α) (p : String → Bool) (k : String) :
    (d.keep p).get? k = if p k then d.get? k else none := by
  rw [get?, keep, d.sorted.get?_filter]
  cases hg : d.entries.get? k <;> cases hp : p k <;> simp [get?, hg, Option.filter, hp]

/-- The keys are those under which something is found. -/
theorem mem_keys_iff {d : Dict α} {k : String} : k ∈ d.keys ↔ (d.get? k).isSome = true := by
  constructor
  · intro h
    obtain ⟨⟨k', v⟩, hm, hk⟩ := List.mem_map.1 h
    cases hk
    rw [get?, d.sorted.get?_of_mem hm]
    rfl
  · intro h
    obtain ⟨v, hv⟩ := Option.isSome_iff_exists.1 h
    exact List.mem_map.2 ⟨(k, v), Entries.mem_of_get? hv, rfl⟩

end Dict

end ValueTypes
