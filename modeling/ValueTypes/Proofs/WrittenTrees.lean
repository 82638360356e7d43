/-
  A written document is read as what it stands for.

  The lines of a document say statements (`says_blocks`), and one statement after another lets a
  tree grow.  Each value of a document is followed on its way into that tree.

  * `Reaches` says of a place in a growing tree what is there and what the tree is like around it:
    whatever changes the table at the end of a path changes just what is there.  A table and the
    latest item of a list are reached through their parents, and so is a table that is not there
    yet but would be implied.
  * `Grows` relates a tree to what statements make of it.  A table gets its header and the values on
    lines of their own (`foldlM_leafLines`), then its tables, one after another
    (`entryBlocks_grow`), and a list gets its items, the latest in front (`itemBlocks_grow`).  The
    induction is on the plain values (`Plain.builds`).
  * A table is put in the order of its keys, whatever the order of its lines
    (`tableSetting?_eq`), and a list of tables is turned round again.
-/
import ValueTypes.Proofs.PlainDocuments

namespace ValueTypes.Toml

/-! ## Places in a growing tree -/

/-- The nodes of a table. -/
abbrev Nodes := List (String × Node)

namespace Node

theorem put_of_fresh {k : String} {es : Nodes} (h : Entries.get? k es = none) (n : Node) :
    put k n es = es ++ [(k, n)] := by
  induction es with
  | nil => rfl
  | cons e es ih =>
    rw [Entries.get?] at h
    split at h
    · cases h
    · next hk => rw [put, if_neg hk, ih h, List.cons_append]

/-- The last entry is changed in its place. -/
theorem put_last {k : String} {es : Nodes} (h : Entries.get? k es = none) (n n' : Node) :
    put k n' (es ++ [(k, n)]) = es ++ [(k, n')] := by
  induction es with
  | nil => simp [put]
  | cons e es ih =>
    rw [Entries.get?] at h
    split at h
    · cases h
    · next hk => rw [List.cons_append, put, if_neg hk, ih h, List.cons_append]

theorem get?_last {k : String} {es : Nodes} (h : Entries.get? k es = none) (n : Node) :
    Entries.get? k (es ++ [(k, n)]) = some n := by
  rw [Entries.get?_append_of_fresh h, Entries.get?, if_pos rfl]

/-- A change at the end of a path is one at the end of its second half, made at the end of its
    first. -/
theorem enter?_append (change : Nodes → Option Nodes) (path path' : List String) (es : Nodes) :
    enter? change (path ++ path') es = enter? (enter? change path') path es := by
  induction path generalizing es with
  | nil => rfl
  | cons p path ih =>
    rw [List.cons_append, enter?, enter?]
    split <;> simp only [ih]

end Node

/-- At the end of `path` in the tree `root` stands `inner`, and `tree` is what is around it:
    whatever changes the table there changes just that. -/
def Reaches (path : List String) (tree : Nodes → Nodes) (root inner : Nodes) : Prop :=
  ∀ change, Node.enter? change path root = (change inner).map tree

/-- The tree around the end of `path` is `tree`, whatever stands there. -/
def Hole (path : List String) (tree : Nodes → Nodes) : Prop :=
  ∀ inner, Reaches path tree (tree inner) inner

theorem hole_top : Hole [] id := fun inner change => by
  rw [Option.map_id, id, id]
  rfl

section Reaching

variable {path : List String} {tree : Nodes → Nodes} {root before inner : Nodes} {k : String}

/-- The last table in a place that is reached is reached too. -/
theorem Reaches.table {origin : Origin}
    (h : Reaches path tree root (before ++ [(k, .table origin inner)]))
    (hk : Entries.get? k before = none) :
    Reaches (path ++ [k]) (fun inner => tree (before ++ [(k, .table origin inner)])) root inner := by
  intro change
  rw [Node.enter?_append, h, Node.enter?, Node.get?_last hk]
  simp only [Node.enter?, Node.put_last hk, Option.map_map]
  rfl

/-- So is the latest item of the last list. -/
theorem Reaches.item {earlier : List Nodes}
    (h : Reaches path tree root (before ++ [(k, .tables inner earlier)]))
    (hk : Entries.get? k before = none) :
    Reaches (path ++ [k]) (fun inner => tree (before ++ [(k, .tables inner earlier)])) root
      inner := by
  intro change
  rw [Node.enter?_append, h, Node.enter?, Node.get?_last hk]
  simp only [Node.enter?, Node.put_last hk, Option.map_map]
  rfl

/-- A table that is missing is reached as an empty one that is implied. -/
theorem Reaches.implied (h : Reaches path tree root before) (hk : Entries.get? k before = none) :
    Reaches (path ++ [k]) (fun inner => tree (before ++ [(k, .table .implied inner)])) root [] := by
  intro change
  rw [Node.enter?_append, h, Node.enter?, hk]
  simp only [Node.enter?, Node.put_of_fresh hk, Option.map_map]
  rfl

theorem Hole.table (h : Hole path tree) (hk : Entries.get? k before = none) (origin : Origin) :
    Hole (path ++ [k]) fun inner => tree (before ++ [(k, .table origin inner)]) :=
  fun _ => (h _).table hk

theorem Hole.item (h : Hole path tree) (hk : Entries.get? k before = none)
    (earlier : List Nodes) :
    Hole (path ++ [k]) fun inner => tree (before ++ [(k, .tables inner earlier)]) :=
  fun _ => (h _).item hk

end Reaching

/-! ## The settings of nodes -/

/-- The settings of the values of a table that stand on the lines of their keys. -/
def Leaf.setting : Leaf → Setting
  | flag b => .bool b
  | text s => .text s
  | emptyList => .list []

theorem Leaf.setting?_node (v : Leaf) : Node.setting? v.node = some v.setting := by
  cases v <;> rfl

theorem setting_of_leaf? {v : Tree} {leaf : Leaf} (h : v.leaf? = some leaf) :
    v.setting = leaf.setting := by
  match v with
  | .flag _ | .text _ | .tables [] =>
    cases h
    rfl
  | .table _ | .tables (_ :: _) => cases h

/-- The values of a table that have lines of their own. -/
def branches (es : List (String × Tree)) : List (String × Tree) :=
  es.filter fun e => e.2.leaf?.isNone

theorem branches_cons_leaf {e : String × Tree} {leaf : Leaf} (h : e.2.leaf? = some leaf)
    (es : List (String × Tree)) : branches (e :: es) = branches es :=
  List.filter_cons_of_neg (by simp [h])

theorem branches_cons_branch {e : String × Tree} (h : e.2.leaf? = none)
    (es : List (String × Tree)) : branches (e :: es) = e :: branches es :=
  List.filter_cons_of_pos (by simp [h])

/-- The values that stand on the lines of their keys and the others are all there are. -/
theorem leaves_append_branches_perm (es : List (String × Tree)) :
    ((leaves es).map (fun e => (e.1, e.2.setting)) ++ entrySettings (branches es)).Perm
      (entrySettings es) := by
  induction es with
  | nil => exact .nil
  | cons e es ih =>
    rw [entrySettings]
    cases hleaf : e.2.leaf? with
    | some leaf =>
      have hleaves : leaves (e :: es) = (e.1, leaf) :: leaves es :=
        List.filterMap_cons_some (by rw [hleaf]; rfl)
      rw [hleaves, branches_cons_leaf hleaf, List.map_cons, List.cons_append, setting_of_leaf? hleaf]
      exact ih.cons _
    | none =>
      have hleaves : leaves (e :: es) = leaves es :=
        List.filterMap_cons_none (by rw [hleaf]; rfl)
      rw [hleaves, branches_cons_branch hleaf, entrySettings]
      exact List.perm_middle.trans (ih.cons _)

theorem entrySettings?_append {ns ms : Nodes} {vs ws : Entries Setting}
    (hns : Node.entrySettings? ns = some vs) (hms : Node.entrySettings? ms = some ws) :
    Node.entrySettings? (ns ++ ms) = some (vs ++ ws) := by
  induction ns generalizing vs with
  | nil =>
    cases hns
    exact hms
  | cons n ns ih =>
    rw [Node.entrySettings?] at hns
    split at hns
    · next hn hrest =>
      cases hns
      rw [List.cons_append, Node.entrySettings?, hn, ih hrest]
      rfl
    · cases hns

/-- Leaves are read as their settings. -/
theorem entrySettings?_leaves (vs : List (String × Leaf)) :
    Node.entrySettings? (vs.map fun e => (e.1, e.2.node)) =
      some (vs.map fun e => (e.1, e.2.setting)) := by
  induction vs with
  | nil => rfl
  | cons e vs ih => rw [List.map_cons, Node.entrySettings?, e.2.setting?_node, ih, List.map_cons]

theorem isWord_ne_momentKey {k : String} (h : isWord k = true) : k ≠ Node.momentKey := by
  rintro rfl
  exact absurd h (by decide)

/-- A table with the nodes of some entries is the table of those, whatever their order. -/
theorem tableSetting?_eq {ns : Nodes} {vs : Entries Setting} {es : List (String × Tree)}
    (hkeys : PlainKeys es) (hns : Node.entrySettings? ns = some vs)
    (hperm : vs.Perm (entrySettings es)) :
    Node.tableSetting? ns = some (.table (Entries.ofList (entrySettings es))) := by
  rw [← Entries.ofList_eq_of_perm hkeys.settings_distinct hperm]
  cases ns with
  | nil =>
    cases hns
    rfl
  | cons n ns =>
    rw [Node.entrySettings?] at hns
    split at hns
    · next hn hrest =>
      cases hns
      -- a key of the document, so no date in disguise
      have hmem : n.1 ∈ es.map Prod.fst := by
        rw [← map_fst_entrySettings]
        exact (hperm.map Prod.fst).mem_iff.1 List.mem_cons_self
      obtain ⟨e, he, hkey⟩ := List.mem_map.1 hmem
      have hmoment : n.1 ≠ Node.momentKey := hkey ▸ isWord_ne_momentKey (hkeys.word e he)
      rw [Node.tableSetting?, if_neg hmoment, hn, hrest]
    · cases hns

theorem earlierSettings?_append {nss mss : List Nodes} {vs ws : List Setting}
    (hnss : Node.earlierSettings? nss = some vs) (hmss : Node.earlierSettings? mss = some ws) :
    Node.earlierSettings? (nss ++ mss) = some (vs ++ ws) := by
  induction nss generalizing vs with
  | nil =>
    cases hnss
    exact hmss
  | cons ns nss ih =>
    rw [Node.earlierSettings?] at hnss
    split at hnss
    · next hns hrest =>
      cases hnss
      rw [List.cons_append, Node.earlierSettings?, hns, ih hrest]
      rfl
    · cases hnss

/-! ## Growing the tree -/

/-- The statements make `after` of the tree `before`, whatever table was named last. -/
def Grows (before : Nodes) (ss : List Statement) (after : Nodes) : Prop :=
  ∀ current, ∃ current', ss.foldlM Statement.apply? ⟨before, current⟩ = some ⟨after, current'⟩

theorem Grows.refl (t : Nodes) : Grows t [] t := fun current => ⟨current, rfl⟩

theorem Grows.append {t t' t'' : Nodes} {ss ss' : List Statement} (h : Grows t ss t')
    (h' : Grows t' ss' t'') : Grows t (ss ++ ss') t'' := by
  intro current
  obtain ⟨current', hss⟩ := h current
  obtain ⟨current'', hss'⟩ := h' current'
  refine ⟨current'', ?_⟩
  rw [List.foldlM_append, hss]
  exact hss'

/-- What some blocks of lines say. -/
def said (blocks : List (List Line)) : List Statement := blocks.flatten.map Line.statement

theorem said_cons (lines : List Line) (blocks : List (List Line)) :
    said (lines :: blocks) = lines.map Line.statement ++ said blocks := by
  rw [said, List.flatten_cons, List.map_append, said]

theorem said_append (blocks blocks' : List (List Line)) :
    said (blocks ++ blocks') = said blocks ++ said blocks' := by
  rw [said, List.flatten_append, List.map_append, said, said]

section Growing

variable {path : List String} {tree : Nodes → Nodes}

/-- Pairs put their values into the table that was named last. -/
theorem foldlM_leafLines (hhole : Hole path tree) {vs : List (String × Leaf)} {inner : Nodes}
    (hdistinct : (inner.map Prod.fst ++ vs.map Prod.fst).Nodup) :
    (vs.map fun e => (Line.pair e.1 e.2).statement).foldlM Statement.apply? ⟨tree inner, path⟩ =
      some ⟨tree (inner ++ vs.map fun e => (e.1, e.2.node)), path⟩ := by
  induction vs generalizing inner with
  | nil => simp
  | cons e vs ih =>
    have hfresh : Entries.get? e.1 inner = none := Entries.get?_eq_none_of_nodup hdistinct
    have hdistinct' : ((inner ++ [(e.1, e.2.node)]).map Prod.fst ++ vs.map Prod.fst).Nodup := by
      simpa using hdistinct
    have hput : Node.insertAt? e.2.node e.1 [] inner = some (inner ++ [(e.1, e.2.node)]) := by
      rw [Node.insertAt?, hfresh]
      exact congrArg some (Node.put_of_fresh hfresh _)
    rw [List.map_cons, List.foldlM_cons, Line.statement, Statement.apply?, hhole inner, hput]
    simpa using ih hdistinct'

/-- A value that grows into a tree, wherever there is room for it under a key. -/
def Builds (v : Tree) : Prop :=
  v.leaf? = none → ∀ {path : List String} {tree : Nodes → Nodes} {root before : Nodes} {k : String},
    Hole path tree → Reaches path tree root before → Entries.get? k before = none →
    ∃ n, Node.setting? n = some v.setting ∧
      Grows root (said (blocksOf path k v)) (tree (before ++ [(k, n)]))

theorem blocksOf_leaf {v : Tree} {leaf : Leaf} (h : v.leaf? = some leaf) (k : String) :
    blocksOf path k v = [] := by
  match v with
  | .flag _ | .text _ | .tables [] => rfl
  | .table _ | .tables (_ :: _) => cases h

/-- The values of a table that have lines of their own come to stand in it, one after another.  If
    there are any, the table need not be there before. -/
theorem entryBlocks_grow (hhole : Hole path tree) {es : List (String × Tree)}
    (hbuilds : ∀ e ∈ es, Builds e.2) {root before : Nodes} (hreach : Reaches path tree root before)
    (hroot : root = tree before ∨ branches es ≠ [])
    (hdistinct : (before.map Prod.fst ++ (branches es).map Prod.fst).Nodup) :
    ∃ ns, Node.entrySettings? ns = some (entrySettings (branches es)) ∧
      Grows root (said (entryBlocks path es)) (tree (before ++ ns)) := by
  induction es generalizing root before with
  | nil =>
    obtain rfl : root = tree before := hroot.resolve_right fun h => h rfl
    exact ⟨[], rfl, by simpa [entryBlocks, said] using Grows.refl (tree before)⟩
  | cons e es ih =>
    obtain ⟨he, hes⟩ := List.forall_mem_cons.1 hbuilds
    rw [entryBlocks, said_append]
    cases hleaf : e.2.leaf? with
    | some leaf =>
      rw [branches_cons_leaf hleaf] at hroot hdistinct ⊢
      rw [blocksOf_leaf hleaf]
      exact ih hes hreach hroot hdistinct
    | none =>
      rw [branches_cons_branch hleaf] at hdistinct ⊢
      have hfresh : Entries.get? e.1 before = none := Entries.get?_eq_none_of_nodup hdistinct
      obtain ⟨n, hn, hgrow⟩ := he hleaf hhole hreach hfresh
      obtain ⟨ns, hns, hgrows⟩ := ih hes (hhole (before ++ [(e.1, n)])) (.inl rfl)
        (by simpa using hdistinct)
      refine ⟨(e.1, n) :: ns, ?_, ?_⟩
      · rw [Node.entrySettings?, hn, hns, entrySettings]
      · rw [List.append_cons]
        exact hgrow.append hgrows

/-- After its header, a table gets all its values. -/
theorem table_grows (hhole : Hole path tree) {es : List (String × Tree)} (hkeys : PlainKeys es)
    (hbuilds : ∀ e ∈ es, Builds e.2) :
    ∃ ns current, Node.tableSetting? ns = some (.table (Entries.ofList (entrySettings es))) ∧
      (said (leafLines es :: entryBlocks path es)).foldlM Statement.apply? ⟨tree [], path⟩ =
        some ⟨tree ns, current⟩ := by
  have hperm := leaves_append_branches_perm es
  have hdistinct : ((leaves es).map Prod.fst ++ (branches es).map Prod.fst).Nodup := by
    have := (hperm.map Prod.fst).nodup_iff.2 hkeys.settings_distinct
    rwa [List.map_append, map_fst_entrySettings, List.map_map] at this
  have hleaves : ((leaves es).map fun e => (Line.pair e.1 e.2).statement).foldlM Statement.apply?
      ⟨tree [], path⟩ = some ⟨tree ((leaves es).map fun e => (e.1, e.2.node)), path⟩ :=
    foldlM_leafLines hhole (List.nodup_append.1 hdistinct).1
  obtain ⟨ns, hns, hgrows⟩ := entryBlocks_grow hhole hbuilds
    (hhole ((leaves es).map fun e => (e.1, e.2.node))) (.inl rfl)
    (by rwa [List.map_map])
  obtain ⟨current, hfold⟩ := hgrows path
  refine ⟨_, current, tableSetting?_eq hkeys
    (entrySettings?_append (entrySettings?_leaves _) hns) hperm, ?_⟩
  rw [said_cons, leafLines, List.map_map, List.foldlM_append]
  show ((leaves es).map fun e => (Line.pair e.1 e.2).statement).foldlM Statement.apply? _ >>= _ = _
  rw [hleaves]
  exact hfold

/-! ## Lists of tables -/

/-- The entry of a list of tables, the latest first; there is none before the first table. -/
def latestFirst (k : String) : List Nodes → Nodes
  | [] => []
  | latest :: earlier => [(k, .tables latest earlier)]

/-- One more item is opened after those that are there. -/
theorem openItem?_latestFirst {before : Nodes} {k : String} (hk : Entries.get? k before = none)
    (nss : List Nodes) :
    Node.openItem? k (before ++ latestFirst k nss) = some (before ++ [(k, .tables [] nss)]) := by
  cases nss with
  | nil => rw [latestFirst, List.append_nil, Node.openItem?, hk, Node.put_of_fresh hk]
  | cons latest earlier =>
    rw [latestFirst, Node.openItem?, Node.get?_last hk]
    exact congrArg some (Node.put_last hk _ _)

/-- An item comes to stand in front of those before it. -/
theorem item_grows (hhole : Hole path tree) {es : List (String × Tree)} (hkeys : PlainKeys es)
    (hbuilds : ∀ e ∈ es, Builds e.2) {root before : Nodes} {k : String} {nss : List Nodes}
    (hk : Entries.get? k before = none)
    (hreach : Reaches path tree root (before ++ latestFirst k nss)) :
    ∃ ns, Node.tableSetting? ns = some (.table (Entries.ofList (entrySettings es))) ∧
      Grows root (said ((.item ⟨path, k⟩ :: leafLines es) :: entryBlocks (path ++ [k]) es))
        (tree (before ++ latestFirst k (ns :: nss))) := by
  obtain ⟨ns, current', hns, hfold⟩ := table_grows (hhole.item hk nss) hkeys hbuilds
  refine ⟨ns, hns, fun current => ⟨current', ?_⟩⟩
  rw [said_cons, List.map_cons, List.cons_append, ← said_cons, List.foldlM_cons, Line.statement,
    Statement.apply?, hreach, openItem?_latestFirst hk]
  exact hfold

/-- The items of a list come to stand in it, one after another. -/
theorem itemBlocks_grow (hhole : Hole path tree) {items : List (List (String × Tree))}
    (hkeys : ∀ es ∈ items, PlainKeys es) (hbuilds : ∀ es ∈ items, ∀ e ∈ es, Builds e.2)
    {root before : Nodes} {k : String} {nss : List Nodes} (hk : Entries.get? k before = none)
    (hreach : Reaches path tree root (before ++ latestFirst k nss))
    (hroot : root = tree (before ++ latestFirst k nss) ∨ items ≠ []) :
    ∃ mss, Node.earlierSettings? mss = some (itemSettings items).reverse ∧
      Grows root (said (itemBlocks path k items))
        (tree (before ++ latestFirst k (mss ++ nss))) := by
  induction items generalizing root nss with
  | nil =>
    obtain rfl := hroot.resolve_right fun h => h rfl
    exact ⟨[], rfl, Grows.refl _⟩
  | cons es items ih =>
    obtain ⟨hes, hitems⟩ := List.forall_mem_cons.1 hkeys
    obtain ⟨hbes, hbitems⟩ := List.forall_mem_cons.1 hbuilds
    obtain ⟨ns, hns, hgrow⟩ := item_grows hhole hes hbes hk hreach
    obtain ⟨mss, hmss, hgrows⟩ := ih hitems hbitems (hhole (before ++ latestFirst k (ns :: nss)))
      (.inl rfl)
    have hlast : Node.earlierSettings? [ns] =
        some [.table (Entries.ofList (entrySettings es))] := by
      rw [Node.earlierSettings?, hns]
      rfl
    refine ⟨mss ++ [ns], ?_, ?_⟩
    · rw [itemSettings, List.reverse_cons]
      exact earlierSettings?_append hmss hlast
    · rw [itemBlocks, said_append, List.append_assoc]
      exact hgrow.append hgrows

end Growing

/-! ## Main result -/

/-- Every plain value grows into a tree. -/
theorem Plain.builds {depth : Nat} {v : Tree} (h : Plain depth v) : Builds v := by
  induction h with
  | flag | text =>
    intro hleaf
    cases hleaf
  | @table depth es hkeys _ ih =>
    intro _ path tree root before k hhole hreach hk
    rw [blocksOf]
    by_cases hhidden : isHidden es = true
    · -- no header: the first table in it implies it
      obtain ⟨hsome, hnone⟩ : es ≠ [] ∧ leaves es = [] := by simpa [isHidden] using hhidden
      have hperm := leaves_append_branches_perm es
      rw [hnone] at hperm
      have hbranches : branches es ≠ [] := by
        intro hempty
        rw [hempty] at hperm
        exact hsome (List.map_eq_nil_iff.1 (entrySettings_eq_map es ▸ hperm.symm.eq_nil))
      have hdistinct : ((branches es).map Prod.fst).Nodup :=
        hkeys.distinct.sublist (List.filter_sublist.map _)
      obtain ⟨ns, hns, hgrows⟩ := entryBlocks_grow (hhole.table hk .implied) ih
        (hreach.implied hk) (.inr hbranches) hdistinct
      refine ⟨.table .implied ns, tableSetting?_eq hkeys hns hperm, ?_⟩
      rw [if_pos hhidden]
      exact hgrows
    · obtain ⟨ns, current', hns, hfold⟩ := table_grows (hhole.table hk .header) hkeys ih
      have hopen : Node.openTable? k before = some (before ++ [(k, .table .header [])]) := by
        rw [Node.openTable?, hk, Node.put_of_fresh hk]
      refine ⟨.table .header ns, hns, fun current => ⟨current', ?_⟩⟩
      rw [if_neg hhidden, List.singleton_append, said_cons, List.map_cons, List.cons_append,
        ← said_cons, List.foldlM_cons, Line.statement, Statement.apply?, hreach, hopen]
      exact hfold
  | @tables depth items hkeys _ ih =>
    intro hleaf path tree root before k hhole hreach hk
    have hitems : items ≠ [] := by
      rintro rfl
      cases hleaf
    have hnone : Reaches path tree root (before ++ latestFirst k []) := by
      simpa [latestFirst] using hreach
    obtain ⟨mss, hmss, hgrows⟩ := itemBlocks_grow hhole hkeys ih hk hnone (.inr hitems)
    rw [List.append_nil] at hgrows
    cases mss with
    | nil =>
      have hempty : itemSettings items = [] := by simpa [Node.earlierSettings?] using hmss
      rw [itemSettings_eq_map, List.map_eq_nil_iff] at hempty
      exact absurd hempty hitems
    | cons latest earlier =>
      refine ⟨.tables latest earlier, ?_, hgrows⟩
      rw [Node.earlierSettings?] at hmss
      split at hmss
      · next hlatest hearlier =>
        have hitems := congrArg List.reverse (Option.some.inj hmss)
        rw [List.reverse_reverse] at hitems
        rw [Node.setting?, hlatest, hearlier, Tree.setting, ← hitems]
      · cases hmss

/-- **A written document is read as what it stands for.** -/
theorem read?_write {es : List (String × Tree)} (h : PlainDocument es) :
    read? (write es) = some (Entries.ofList (entrySettings es)) := by
  have hlines : Says (write es).toList (said (blocks es)) := by
    rw [write, String.toList_ofList]
    exact says_blocks h.readable
  have hsaid : said (blocks es) = said (leafLines es :: entryBlocks [] es) := by
    rw [blocks]
    split
    · next hnone => simp [said_cons, leafLines, List.isEmpty_iff.1 hnone]
    · rfl
  obtain ⟨ns, current, hns, hfold⟩ :=
    table_grows hole_top h.keys fun e he => (h.plain e he).builds
  rw [hlines.read?_eq, entriesOf?, hsaid]
  rw [id, id] at hfold
  rw [hfold, Option.bind_some, hns]

end ValueTypes.Toml
