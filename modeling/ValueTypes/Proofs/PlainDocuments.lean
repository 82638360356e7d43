/-
  What a document stands for, and which documents are plain.

  A document stands for entries: its values as settings, each table in the order of its keys
  (`entrySettings`).  The order in which the entries of a table are put there does not matter
  (`Entries.ofList_eq_of_perm`).

  A document is plain where the keys of its tables are different words of small letters and
  underscores, and its tables lie no deeper than the reader goes.  Its keys can be written without
  quotes then, so all its lines can be read (`PlainDocument.readable`).
-/
import ValueTypes.Proofs.Build
import ValueTypes.Proofs.WrittenLines

namespace ValueTypes

/-! ## Entries put in any order -/

namespace Entries

variable {α : Type}

theorem sorted_iff {es : Entries α} : es.Sorted ↔ (es.map Prod.fst).Pairwise (· < ·) :=
  List.pairwise_map.symm

/-- Entries are sorted if their names are. -/
theorem Sorted.of_names {es : Entries α} (names : List String) (h : es.map Prod.fst = names)
    (hsorted : names.Pairwise (· < ·)) : es.Sorted := sorted_iff.2 (h ▸ hsorted)

/-- Entries put into sorted ones, one after another, are sorted. -/
theorem sorted_insertAll {es acc : Entries α} (h : acc.Sorted) :
    Sorted (es.foldl (fun acc e => acc.insert e.1 e.2) acc) := by
  induction es generalizing acc with
  | nil => exact h
  | cons e es ih => exact ih (h.insert e.1 e.2)

theorem sorted_ofList (es : Entries α) : (ofList es).Sorted := sorted_insertAll .nil

/-- Of entries of different keys, put into others, the new ones are found first. -/
theorem get?_insertAll {es : Entries α} (hdistinct : (es.map Prod.fst).Nodup) (acc : Entries α)
    (k : String) :
    get? k (es.foldl (fun acc e => acc.insert e.1 e.2) acc) = (get? k es).or (get? k acc) := by
  induction es generalizing acc with
  | nil => rfl
  | cons e es ih =>
    obtain ⟨hfresh, hdistinct⟩ := List.nodup_cons.1 hdistinct
    rw [List.foldl_cons, ih hdistinct, get?_insert, get?]
    by_cases hk : k = e.1
    · subst hk
      have hnone : get? e.1 es = none :=
        get?_eq_none fun e' he' hk => hfresh (List.mem_map.2 ⟨e', he', hk⟩)
      rw [hnone, if_pos rfl, if_pos rfl]
      rfl
    · rw [if_neg hk, if_neg hk]

/-- Of entries with distinct keys, sorting keeps every look-up. -/
theorem get?_ofList {es : Entries α} (hdistinct : (es.map Prod.fst).Nodup) (k : String) :
    get? k (ofList es) = get? k es := by
  rw [ofList, get?_insertAll hdistinct]
  exact Option.or_none

/-- Entries of different keys come to the same whatever their order. -/
theorem ofList_eq_of_perm {es fs : Entries α} (hdistinct : (fs.map Prod.fst).Nodup)
    (hperm : es.Perm fs) : ofList es = ofList fs := by
  have hdistinct' : (es.map Prod.fst).Nodup := (hperm.map Prod.fst).nodup_iff.2 hdistinct
  refine (sorted_ofList es).ext (sorted_ofList fs) fun k => ?_
  rw [get?_ofList hdistinct, get?_ofList hdistinct']
  cases hfs : fs.get? k with
  | some v => exact get?_of_nodup hdistinct' (hperm.mem_iff.2 (mem_of_get? hfs))
  | none =>
    refine get?_eq_none fun e he hk => ?_
    have hmem : (k, e.2) ∈ fs := hk ▸ hperm.mem_iff.1 he
    rw [get?_of_nodup hdistinct hmem] at hfs
    cases hfs

/-- Entries come to the sorted ones that they are in some order. -/
theorem ofList_eq_sorted {es fs : Entries α} (hsorted : fs.Sorted) (hperm : es.Perm fs) :
    ofList es = fs := by
  have hdistinct : (fs.map Prod.fst).Nodup :=
    (sorted_iff.1 hsorted).imp fun hlt => String.ne_of_lt hlt
  rw [ofList_eq_of_perm hdistinct hperm]
  exact (sorted_ofList fs).ext hsorted (get?_ofList hdistinct)

/-- Nothing comes to stand in a list but what is put there. -/
theorem mem_of_mem_ofList {es : Entries α} {e : String × α} (h : e ∈ ofList es) : e ∈ es := by
  have hall : ∀ (es acc : Entries α), e ∈ es.foldl (fun acc e => acc.insert e.1 e.2) acc →
      e ∈ es ∨ e ∈ acc := by
    intro es
    induction es with
    | nil => exact fun acc h => .inr h
    | cons a es ih =>
      intro acc h
      rcases ih _ h with h | h
      · exact .inl (List.mem_cons_of_mem _ h)
      · rcases mem_insert h with rfl | h
        · exact .inl List.mem_cons_self
        · exact .inr h
  exact (hall es [] h).resolve_right List.not_mem_nil

/-- A key that comes after entries of other keys is not found among those. -/
theorem get?_eq_none_of_nodup {k : String} {es : Entries α} {ks : List String}
    (h : (es.map Prod.fst ++ k :: ks).Nodup) : es.get? k = none :=
  get?_eq_none fun e he =>
    (List.nodup_append.1 h).2.2 e.1 (List.mem_map_of_mem he) k List.mem_cons_self

theorem get?_append_of_fresh {k : String} {es fs : Entries α} (h : es.get? k = none) :
    get? k (es ++ fs) = get? k fs := by
  induction es with
  | nil => rfl
  | cons e es ih =>
    rw [get?] at h
    split at h
    · cases h
    · next hk => rw [List.cons_append, get?, if_neg hk, ih h]

end Entries

namespace Toml

/-! ## What a document stands for -/

mutual

/-- The setting that is written as a tree. -/
def Tree.setting : Tree → Setting
  | .flag b => .bool b
  | .text s => .text s
  | .table es => .table (Entries.ofList (entrySettings es))
  | .tables items => .list (itemSettings items)

/-- The entries of a table, in the order in which they are written. -/
def entrySettings : List (String × Tree) → Entries Setting
  | [] => []
  | (k, v) :: es => (k, v.setting) :: entrySettings es

def itemSettings : List (List (String × Tree)) → List Setting
  | [] => []
  | es :: items => .table (Entries.ofList (entrySettings es)) :: itemSettings items

end

theorem entrySettings_eq_map (es : List (String × Tree)) :
    entrySettings es = es.map fun e => (e.1, e.2.setting) := by
  induction es with
  | nil => rfl
  | cons e es ih => rw [entrySettings, ih, List.map_cons]

theorem itemSettings_eq_map (items : List (List (String × Tree))) :
    itemSettings items = items.map fun es => .table (Entries.ofList (entrySettings es)) := by
  induction items with
  | nil => rfl
  | cons es items ih => rw [itemSettings, ih, List.map_cons]

theorem map_fst_entrySettings (es : List (String × Tree)) :
    (entrySettings es).map Prod.fst = es.map Prod.fst := by
  rw [entrySettings_eq_map, List.map_map]
  rfl

/-! ## Plain documents -/

/-- Whether a key is made of small letters and underscores. -/
def isWord (key : String) : Bool := key != "" && key.toList.all fun c => c.isLower || c == '_'

/-- The keys of a table are words, and no key is there twice. -/
structure PlainKeys (es : List (String × Tree)) : Prop where
  word : ∀ e ∈ es, isWord e.1 = true
  distinct : (es.map Prod.fst).Nodup

/-- The entries that are written have different keys too. -/
theorem PlainKeys.settings_distinct {es : List (String × Tree)} (h : PlainKeys es) :
    ((entrySettings es).map Prod.fst).Nodup := by
  rw [map_fst_entrySettings]
  exact h.distinct

/-- Keys are plain if their names are. -/
theorem PlainKeys.of_names {es : List (String × Tree)} (names : List String)
    (h : es.map Prod.fst = names) (hword : ∀ name ∈ names, isWord name = true)
    (hdistinct : names.Nodup) : PlainKeys es := by
  subst h
  exact ⟨fun e he => hword e.1 (List.mem_map_of_mem he), hdistinct⟩

/-- A tree whose tables have plain keys and are at most `depth` deep. -/
inductive Plain : Nat → Tree → Prop where
  | flag (depth : Nat) (b : Bool) : Plain depth (.flag b)
  | text (depth : Nat) (s : String) : Plain depth (.text s)
  | table {depth : Nat} {es : List (String × Tree)} (hkeys : PlainKeys es)
      (h : ∀ e ∈ es, Plain depth e.2) : Plain (depth + 1) (.table es)
  | tables {depth : Nat} {items : List (List (String × Tree))} (hkeys : ∀ es ∈ items, PlainKeys es)
      (h : ∀ es ∈ items, ∀ e ∈ es, Plain depth e.2) : Plain (depth + 1) (.tables items)

/-- A document with plain keys, whose tables are no deeper than headers can be long. -/
structure PlainDocument (es : List (String × Tree)) : Prop where
  keys : PlainKeys es
  plain : ∀ e ∈ es, Plain maxNesting e.2

/-- A word has no characters but small letters and underscores. -/
theorem isLower_or_of_isWord {key : String} (h : isWord key = true) {c : Char}
    (hc : c ∈ key.toList) : c.isLower = true ∨ (c == '_') = true := by
  rw [isWord, Bool.and_eq_true] at h
  exact Bool.or_eq_true _ _ ▸ List.all_eq_true.1 h.2 c hc

/-- So all of them may stand in an identifier. -/
theorem isAlphanum_or_of_isWord {key : String} (h : isWord key = true) {c : Char}
    (hc : c ∈ key.toList) : (c.isAlphanum || c == '_') = true := by
  rcases isLower_or_of_isWord h hc with hlower | hunderscore
  · show ((c.isUpper || c.isLower || c.isDigit) || c == '_') = true
    rw [hlower, Bool.or_true, Bool.true_or, Bool.true_or]
  · rw [hunderscore, Bool.or_true]

theorem isBareKey_of_isWord {key : String} (h : isWord key = true) : isBareKey key = true := by
  rw [isBareKey, Bool.and_eq_true]
  refine ⟨(Bool.and_eq_true _ _ ▸ h).1, List.all_eq_true.2 fun c hc => ?_⟩
  rw [inBareKey, isAlphanum_or_of_isWord h hc, Bool.true_or]

/-! ## Lines of a plain document -/

theorem mem_keys_of_mem_leaves {es : List (String × Tree)} {e : String × Leaf} (h : e ∈ leaves es) :
    ∃ v, (e.1, v) ∈ es := by
  obtain ⟨⟨k, v⟩, hmem, hleaf⟩ := List.mem_filterMap.1 h
  obtain ⟨leaf, -, rfl⟩ := Option.map_eq_some_iff.1 hleaf
  exact ⟨v, hmem⟩

theorem readable_of_mem_leafLines {es : List (String × Tree)} (hkeys : PlainKeys es) {l : Line}
    (hl : l ∈ leafLines es) : l.Readable := by
  obtain ⟨e, he, rfl⟩ := List.mem_map.1 hl
  obtain ⟨v, hv⟩ := mem_keys_of_mem_leaves he
  exact isBareKey_of_isWord (hkeys.word _ hv)

/-- The parts of a path are words, and there is room for some more levels below it. -/
structure PlainPath (path : List String) (depth : Nat) : Prop where
  word : ∀ part ∈ path, isWord part = true
  room : path.length + depth ≤ maxNesting

/-- A path that is one word longer has room for one level less below it. -/
theorem PlainPath.append {path : List String} {depth : Nat} (h : PlainPath path (depth + 1))
    {key : String} (hkey : isWord key = true) : PlainPath (path ++ [key]) depth := by
  refine ⟨fun part hpart => ?_, ?_⟩
  · rcases List.mem_append.1 hpart with hpart | hpart
    · exact h.word part hpart
    · rwa [List.mem_singleton.1 hpart]
  · have := h.room
    rw [List.length_append, List.length_singleton]
    omega

theorem PlainPath.bare {path : List String} {depth : Nat} (h : PlainPath path (depth + 1))
    {key : String} (hkey : isWord key = true) :
    Key.Bare ⟨path, key⟩ ∧ path.length < maxNesting := by
  refine ⟨fun part hpart => isBareKey_of_isWord ((h.append hkey).word part hpart), ?_⟩
  have := h.room
  omega

/-- All lines of a plain value can be read. -/
theorem Plain.readable {depth : Nat} {v : Tree} (h : Plain depth v) {path : List String}
    {key : String} (hpath : PlainPath path depth) (hkey : isWord key = true) :
    ∀ lines ∈ blocksOf path key v, ∀ l ∈ lines, l.Readable := by
  induction h generalizing path key with
  | flag | text =>
    intro lines hlines
    simp [blocksOf] at hlines
  | @table depth es hkeys _ ih =>
    intro lines hlines
    rw [blocksOf, entryBlocks_eq_flatMap] at hlines
    rcases List.mem_append.1 hlines with hlines | hlines
    · split at hlines
      · cases hlines
      · rw [List.mem_singleton.1 hlines]
        refine List.forall_mem_cons.2 ⟨hpath.bare hkey, fun l hl => ?_⟩
        exact readable_of_mem_leafLines hkeys hl
    · obtain ⟨e, he, hlines⟩ := List.mem_flatMap.1 hlines
      exact ih e he (hpath.append hkey) (hkeys.word e he) lines hlines
  | @tables depth items hkeys _ ih =>
    intro lines hlines
    rw [blocksOf, itemBlocks_eq_flatMap] at hlines
    obtain ⟨es, hes, hlines⟩ := List.mem_flatMap.1 hlines
    rw [entryBlocks_eq_flatMap] at hlines
    rcases List.mem_cons.1 hlines with rfl | hlines
    · refine List.forall_mem_cons.2 ⟨hpath.bare hkey, fun l hl => ?_⟩
      exact readable_of_mem_leafLines (hkeys es hes) hl
    · obtain ⟨e, he, hlines⟩ := List.mem_flatMap.1 hlines
      exact ih es hes e he (hpath.append hkey) ((hkeys es hes).word e he) lines hlines

/-- Every line of a plain document can be read back. -/
theorem PlainDocument.readable {es : List (String × Tree)} (h : PlainDocument es) :
    ∀ lines ∈ blocks es, ∀ l ∈ lines, l.Readable := by
  intro lines hlines
  rw [blocks, entryBlocks_eq_flatMap] at hlines
  rcases List.mem_append.1 hlines with hlines | hlines
  · split at hlines
    · cases hlines
    · rw [List.mem_singleton.1 hlines]
      exact fun l hl => readable_of_mem_leafLines h.keys hl
  · obtain ⟨e, he, hlines⟩ := List.mem_flatMap.1 hlines
    have hpath : PlainPath [] maxNesting := ⟨by simp, by simp⟩
    exact (h.plain e he).readable hpath (h.keys.word e he) lines hlines

end Toml

end ValueTypes
