/-
  Suggestions are canonical.

  Each registered key may have a score against a name, by any function whatever.  A scored key
  outranks another by a higher score, or by a smaller key where the scores are one
  (`Registry.Outranks`).  No two registered keys are equal, so this puts all scored keys in a strict
  order, and there is one list that holds them in that order, their ranking (`IsRanking.unique`).

  Keys may be gone through in any order: they are scored, sorted and cut off (`suggestFrom`), and
  sorting gives the ranking whatever the order was (`rank_isRanking`).  So the suggestions are the
  first keys of the ranking, and everything said of them is read off it.
-/
import Mathlib.Data.List.Sort
import ValueTypes.Registry

namespace ValueTypes

variable {σ τ : Type}

namespace Registry

/-! ## The order of scored keys -/

/-- The first scored key comes before the second. -/
def Outranks (a b : Int × String) : Prop := b.1 < a.1 ∨ a.1 = b.1 ∧ a.2 < b.2

instance (a b : Int × String) : Decidable (Outranks a b) :=
  inferInstanceAs (Decidable (b.1 < a.1 ∨ a.1 = b.1 ∧ a.2 < b.2))

instance : Std.Asymm Outranks where
  asymm := by
    rintro a b (h | ⟨h, hkey⟩) (h' | ⟨h', hkey'⟩)
    · exact Int.lt_asymm h h'
    · omega
    · omega
    · exact String.lt_asymm hkey hkey'

/-- A key ranks before another by a higher score, or by its name at the same score. -/
theorem ranksBefore_iff {a b : Int × String} :
    ranksBefore a b = true ↔ b.1 < a.1 ∨ a.1 = b.1 ∧ a.2 ≤ b.2 := by
  simp [ranksBefore]

theorem ranksBefore_trans (a b c : Int × String) (hab : ranksBefore a b = true)
    (hbc : ranksBefore b c = true) : ranksBefore a c = true := by
  rw [ranksBefore_iff] at *
  rcases hab with hab | ⟨hab, hkey⟩
  · exact .inl (by omega)
  · rcases hbc with hbc | ⟨hbc, hkey'⟩
    · exact .inl (by omega)
    · exact .inr ⟨hab.trans hbc, String.le_trans hkey hkey'⟩

theorem ranksBefore_total (a b : Int × String) : (ranksBefore a b || ranksBefore b a) = true := by
  rw [Bool.or_eq_true, ranksBefore_iff, ranksBefore_iff]
  rcases Int.lt_trichotomy a.1 b.1 with h | h | h
  · exact .inr (.inl h)
  · rcases String.le_total a.2 b.2 with hkey | hkey
    · exact .inl (.inr ⟨h, hkey⟩)
    · exact .inr (.inr ⟨h.symm, hkey⟩)
  · exact .inl (.inl h)

/-- Of two scored keys that are not one, the one that sorts before outranks the other. -/
theorem outranks_of_ranksBefore {a b : Int × String} (h : ranksBefore a b = true) (hne : a ≠ b) :
    Outranks a b := by
  rcases ranksBefore_iff.1 h with h | ⟨h, hkey⟩
  · exact .inl h
  · refine .inr ⟨h, String.not_le.1 fun hle => hne ?_⟩
    exact Prod.ext h (String.le_antisymm hkey hle)

/-! ## Rankings -/

section Ranking

variable (score : String → String → Option Int) (name : String)

/-- The list holds the keys that have a score, each with its score, in their order. -/
structure IsRanking (keys : List String) (ranking : List (Int × String)) : Prop where
  ordered : ranking.Pairwise Outranks
  mem_iff : ∀ n key, (n, key) ∈ ranking ↔ key ∈ keys ∧ score key name = some n

/-- The keys that have a score, with their scores, in the order of the keys. -/
def scored (keys : List String) : List (Int × String) :=
  keys.filterMap fun key => (score key name).map (·, key)

/-- The suggestions among keys that are gone through in the order in which they are given. -/
def suggestFrom (keys : List String) (limit : Nat) : List String :=
  (((scored score name keys).mergeSort ranksBefore).take limit).map Prod.snd

variable {score name}

/-- There is one ranking at most. -/
theorem IsRanking.unique {keys : List String} {a b : List (Int × String)}
    (ha : IsRanking score name keys a) (hb : IsRanking score name keys b) : a = b := by
  refine ha.ordered.eq_of_mem_iff hb.ordered ?_
  rintro ⟨n, key⟩
  rw [ha.mem_iff, hb.mem_iff]

/-- A ranking of some keys is one of the same keys in another order. -/
theorem IsRanking.of_mem_iff {keys keys' : List String} {ranking : List (Int × String)}
    (h : IsRanking score name keys ranking) (hkeys : ∀ key, key ∈ keys ↔ key ∈ keys') :
    IsRanking score name keys' ranking :=
  ⟨h.ordered, fun n key => by rw [h.mem_iff, hkeys]⟩

/-- The scored keys are those that the score rates. -/
theorem mem_scored_iff {keys : List String} {n : Int} {key : String} :
    (n, key) ∈ scored score name keys ↔ key ∈ keys ∧ score key name = some n := by
  simp only [scored, List.mem_filterMap, Option.map_eq_some_iff, Prod.mk.injEq]
  constructor
  · rintro ⟨k, hk, m, hm, rfl, rfl⟩
    exact ⟨hk, hm⟩
  · rintro ⟨hk, hn⟩
    exact ⟨key, hk, n, hn, rfl, rfl⟩

theorem scored_keys (keys : List String) :
    (scored score name keys).map Prod.snd = keys.filter fun key => (score key name).isSome := by
  induction keys with
  | nil => rfl
  | cons key keys ih =>
    rw [scored, List.filterMap_cons, List.filter_cons]
    cases score key name with
    | none => exact ih
    | some n => exact congrArg (key :: ·) ih

/-- **Sorting gives the ranking**, in whatever order distinct keys are gone through. -/
theorem rank_isRanking {keys : List String} (h : keys.Nodup) :
    IsRanking score name keys ((scored score name keys).mergeSort ranksBefore) := by
  have hperm := List.mergeSort_perm (scored score name keys) ranksBefore
  have hdistinct : ((scored score name keys).mergeSort ranksBefore).Nodup := by
    refine hperm.nodup_iff.2 (List.Nodup.of_map Prod.snd ?_)
    rw [scored_keys]
    exact h.filter _
  have hsorted := List.pairwise_mergeSort ranksBefore_trans ranksBefore_total
    (scored score name keys)
  refine ⟨hsorted.imp₂ (fun a b => outranks_of_ranksBefore) hdistinct, ?_⟩
  intro n key
  rw [hperm.mem_iff, mem_scored_iff]

/-- The suggestions are the first names of any ranking. -/
theorem IsRanking.suggestFrom {keys : List String} (h : keys.Nodup) {ranking : List (Int × String)}
    (hranking : IsRanking score name keys ranking) (limit : Nat) :
    suggestFrom score name keys limit = (ranking.take limit).map Prod.snd := by
  rw [Registry.suggestFrom, hranking.unique (rank_isRanking h)]

/-- A ranking has no key twice, and as many as have a score. -/
theorem IsRanking.nodup {keys : List String} {ranking : List (Int × String)}
    (h : IsRanking score name keys ranking) : (ranking.map Prod.snd).Nodup := by
  refine List.pairwise_map.2 (h.ordered.imp_of_mem ?_)
  rintro ⟨n, key⟩ ⟨m, key'⟩ ha hb hab (rfl : key = key')
  -- one key has one score, so it would outrank itself
  have hscore := ((h.mem_iff n key).1 ha).2.symm.trans ((h.mem_iff m key).1 hb).2
  cases hscore
  exact Std.Irrefl.irrefl _ hab

/-- A ranking has every key that is rated, once. -/
theorem IsRanking.length {keys : List String} (hkeys : keys.Nodup) {ranking : List (Int × String)}
    (h : IsRanking score name keys ranking) :
    ranking.length = (keys.filter fun key => (score key name).isSome).length := by
  rw [h.unique (rank_isRanking hkeys), List.length_mergeSort, ← scored_keys, List.length_map]

end Ranking

/-! ## Main result -/

theorem keys_nodup (r : Registry σ) : r.keys.Nodup :=
  List.pairwise_map.2 (r.bindings.sorted.imp fun h => String.ne_of_lt h)

/-- **Suggestions are canonical**, for any score.  The scored keys of a registry have one ranking, and
    the suggestions are the first keys of it.  So they are distinct registered keys, as many as the
    limit allows and scores were given, and a larger limit only adds to their end; and neither the
    order in which the keys are gone through nor anything else of the registry but its set of keys
    makes a difference. -/
theorem suggest_is_canonical (r : Registry σ) (score : String → String → Option Int)
    (name : String) :
    (∃! ranking, IsRanking score name r.keys ranking) ∧
    (∀ ranking limit, IsRanking score name r.keys ranking →
      r.suggest score name limit = (ranking.take limit).map Prod.snd) ∧
    (∀ limit,
      (r.suggest score name limit).Nodup ∧
      (∀ key ∈ r.suggest score name limit, r.contains key = true) ∧
      (r.suggest score name limit).length
        = min limit (r.keys.filter fun key => (score key name).isSome).length ∧
      ∀ larger, limit ≤ larger → r.suggest score name limit <+: r.suggest score name larger) ∧
    (∀ keys limit, keys.Perm r.keys →
      suggestFrom score name keys limit = r.suggest score name limit) ∧
    ∀ r' : Registry τ, (∀ key, r'.contains key = r.contains key) →
      ∀ limit, r'.suggest score name limit = r.suggest score name limit := by
  have hranking : IsRanking score name r.keys ((scored score name r.keys).mergeSort ranksBefore) :=
    rank_isRanking r.keys_nodup
  generalize (scored score name r.keys).mergeSort ranksBefore = ranking at hranking
  have hsuggest : ∀ limit, r.suggest score name limit = (ranking.take limit).map Prod.snd :=
    hranking.suggestFrom r.keys_nodup
  refine ⟨⟨ranking, hranking, fun other hother => hother.unique hranking⟩, ?_, ?_, ?_, ?_⟩
  · intro other limit hother
    rw [hother.unique hranking, hsuggest]
  · intro limit
    rw [hsuggest]
    refine ⟨?_, ?_, ?_, ?_⟩
    · exact hranking.nodup.sublist ((List.take_sublist limit ranking).map Prod.snd)
    · intro key hkey
      obtain ⟨⟨n, key⟩, hmem, rfl⟩ := List.mem_map.1 hkey
      have hregistered := ((hranking.mem_iff n key).1 (List.mem_of_mem_take hmem)).1
      exact Dict.mem_keys_iff.1 hregistered
    · rw [List.length_map, List.length_take, hranking.length r.keys_nodup]
    · intro larger hle
      rw [hsuggest]
      exact (List.take_prefix_take_left hle).map Prod.snd
  · intro keys limit hperm
    rw [hsuggest]
    exact (hranking.of_mem_iff fun key => hperm.mem_iff.symm).suggestFrom
      (hperm.nodup_iff.2 r.keys_nodup) limit
  · intro r' hsame limit
    rw [hsuggest]
    refine (hranking.of_mem_iff ?_).suggestFrom r'.keys_nodup limit
    intro key
    rw [keys, Dict.mem_keys_iff, keys, Dict.mem_keys_iff]
    exact iff_of_eq (congrArg (· = true) (hsame key).symm)

/-- Three keys of which two score alike, registered and gone through in other orders than that of
    their ranking. -/
theorem suggest_is_canonical_at_tie :
    let score : String → String → Option Int := fun key _ => if key = "b" then some 2 else some 1
    let r : Registry Empty := ((empty.register "c" (.nominal 0 .any)).register "b"
      (.nominal 1 .any)).register "a" (.nominal 2 .any)
    let ranking : List (Int × String) := [(2, "b"), (1, "a"), (1, "c")]
    IsRanking score "x" r.keys ranking ∧ r.suggest score "x" 2 = ["b", "a"] ∧
      suggestFrom score "x" ["c", "a", "b"] 2 = ["b", "a"] := by
  intro score r ranking
  have hkeys : r.keys = ["a", "b", "c"] := rfl
  have hscored : scored score "x" r.keys = [(1, "a"), (2, "b"), (1, "c")] := rfl
  have hranking : IsRanking score "x" r.keys ranking := by
    refine ⟨by decide, ?_⟩
    intro n key
    have hperm : ranking.Perm [(1, "a"), (2, "b"), (1, "c")] := by decide
    rw [← mem_scored_iff, hscored, hperm.mem_iff]
  obtain ⟨-, hsuggest, -, horder, -⟩ := suggest_is_canonical (τ := Empty) r score "x"
  have hfirst : r.suggest score "x" 2 = ["b", "a"] := hsuggest ranking 2 hranking
  refine ⟨hranking, hfirst, ?_⟩
  rw [horder ["c", "a", "b"] 2 (by rw [hkeys]; decide), hfirst]

end Registry

end ValueTypes
