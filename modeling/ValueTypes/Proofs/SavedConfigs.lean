/-
  A saved configuration loads back unchanged.

  Three things are asked of a backend.  A plain document has a text, which is read as what the
  document stands for (`Backend.RoundTrips`).  The entries of a single source are handed on
  unchanged (`Backend.HandsOn`).  And the decoder reads a truth value, a text, a name, a list and a
  table as what they are (`Decoder.Plain`).  That is enough for any configuration, since

  * the document of a configuration is plain (`Config.tree_plain`), and the settings that it stands
    for hold every field under the name under which decoding asks for it
    (`Config.decode?_settings`);
  * where the text is the only source, a run of `Backend.load` finds it and nothing else.

  The backend in use meets all three.  Documents are written and read as TOML
  (`Toml.read?_write`).  Laying puts keys in lower case and merges tables, so settings whose keys are
  in lower case and in order stay as they are when nothing was there before (`Toml.Plain.stays`).
-/
import Mathlib.Data.List.TakeWhile
import Mathlib.Data.String.Basic
import ValueTypes.Config.Loading
import ValueTypes.Files
import ValueTypes.Proofs.NormalKeys
import ValueTypes.Proofs.WrittenTrees

namespace ValueTypes

/-! ## Lower case -/

namespace Text

/-- The small letters of ASCII and the underscore lie outside all runs of capitals. -/
theorem caseRuns_outside_small :
    caseRuns.all (fun r => decide (r.last < 0x5F) || decide (0x7A < r.first)) = true := by
  decide +kernel

theorem settled_of_small {c : Char} (h : 0x5F ≤ c.toNat ∧ c.toNat ≤ 0x7A) : Settled c := by
  refine ⟨?_, fun r hr => ?_⟩
  · rintro rfl
    exact absurd h (by decide)
  · have hrun := List.all_eq_true.1 caseRuns_outside_small r hr
    rw [Bool.or_eq_true, decide_eq_true_eq, decide_eq_true_eq] at hrun
    rw [CaseRun.covers, Bool.and_eq_false_iff, Bool.and_eq_false_iff]
    simp only [decide_eq_false_iff_not]
    omega

/-- A word is its own lower case. -/
theorem lowercase_of_isWord {s : String} (h : Toml.isWord s = true) : lowercase s = s := by
  have hsettled : ∀ c ∈ s.toList, Settled c := by
    intro c hc
    refine settled_of_small ?_
    rcases Toml.isLower_or_of_isWord h hc with hlower | hunderscore
    · obtain ⟨hfirst, hlast⟩ := Bool.and_eq_true_iff.1 hlower
      exact ⟨Nat.le_trans (by decide) (of_decide_eq_true hfirst), of_decide_eq_true hlast⟩
    · rw [beq_iff_eq.1 hunderscore]
      decide
  rw [lowercase, lower_eq_self hsettled, String.ofList_toList]

end Text

/-! ## Decoding -/

namespace Decoder

/-- A decoder that reads plain settings as what they are. -/
structure Plain (d : Decoder) : Prop where
  bool : ∀ b, d.bool? (.bool b) = some b
  text : ∀ s, d.text? (.text s) = some s
  /-- One of some names that are words is read as that name. -/
  choice : ∀ names, (∀ name ∈ names, Toml.isWord name = true) →
    ∀ name ∈ names, d.choice? names (.text name) = some name
  items : ∀ xs, d.items? (.list xs) = some xs
  /-- A table gives its own entries, whatever the names of the fields. -/
  fields : ∀ names es, d.fields? names (.table es) = some es

/-- The strict decoder reads back the settings that are written. -/
theorem strict_plain : strict.Plain where
  bool _ := rfl
  text _ := rfl
  choice _ _ _ hname := if_pos hname
  items _ := rfl
  fields _ _ := rfl

/-- So does the lenient one. -/
theorem lenient_plain : lenient.Plain where
  bool _ := rfl
  text _ := rfl
  choice names hwords name hname := by
    show names.find? (fun n => decide (Text.lowercase n = Text.lowercase name)) = some name
    -- the names are their own lower case, so the first that is found is the name itself
    obtain ⟨found, hfound⟩ : ∃ found,
        names.find? (fun n => decide (Text.lowercase n = Text.lowercase name)) = some found :=
      Option.isSome_iff_exists.1 (List.find?_isSome.2 ⟨name, hname, decide_eq_true rfl⟩)
    have hsame : Text.lowercase found = Text.lowercase name := by
      simpa using List.find?_some hfound
    rw [Text.lowercase_of_isWord (hwords found (List.mem_of_find?_eq_some hfound)),
      Text.lowercase_of_isWord (hwords name hname)] at hsame
    rw [hfound, hsame]
  items _ := rfl
  fields _ _ := rfl

variable {d : Decoder}

/-- A list of settings is read item by item. -/
theorem list?_map (h : d.Plain) {α : Type} {read? : Setting → Option α} {setting : α → Setting}
    (hread : ∀ a, read? (setting a) = some a) (as : List α) :
    d.list? read? (.list (as.map setting)) = some as := by
  rw [list?, h.items, Option.bind_some]
  induction as with
  | nil => rfl
  | cons a as ih =>
    rw [List.map_cons, List.mapM_cons, hread, ih]
    rfl

/-- A format is read from its name. -/
theorem format?_name (h : d.Plain) (f : OutputFormat) : d.format? (.text f.name) = some f := by
  have hname : f.name ∈ OutputFormat.names := by cases f <;> decide
  rw [format?, h.choice _ (by decide) _ hname, Option.bind_some]
  cases f <;> rfl

end Decoder

/-! ## The settings of a configuration -/

namespace Config

def fieldSettings (f : FieldDeclaration) : Entries Setting :=
  [("name", .text f.name), ("type", .text f.spec)]

def declarationSettings (d : Declaration) : Entries Setting :=
  [("fields", .list (d.fields.map fun f => .table (fieldSettings f))), ("name", .text d.name)]

def registrySettings (r : RegistrySettings) : Entries Setting :=
  [("builtins", .bool r.builtins), ("coercible_namespace", .bool r.coercibleNamespace),
    ("optional_namespace", .bool r.optionalNamespace)]

/-- A configuration as the entries of a source. -/
def settings (c : Config) : Entries Setting :=
  [("output", .table [("format", .text c.format.name)]),
    ("registry", .table (registrySettings c.registry)),
    ("structs", .list (c.declarations.map fun d => .table (declarationSettings d)))]

theorem fieldSettings_sorted (f : FieldDeclaration) : (fieldSettings f).Sorted :=
  .of_names ["name", "type"] rfl (by decide)

theorem declarationSettings_sorted (d : Declaration) : (declarationSettings d).Sorted :=
  .of_names ["fields", "name"] rfl (by decide)

theorem registrySettings_sorted (r : RegistrySettings) : (registrySettings r).Sorted :=
  .of_names ["builtins", "coercible_namespace", "optional_namespace"] rfl (by decide)

theorem settings_sorted (c : Config) : c.settings.Sorted :=
  .of_names ["output", "registry", "structs"] rfl (by decide)

/-! The document of a configuration stands for its settings. -/

theorem ofList_registryTree (r : RegistrySettings) :
    Entries.ofList (Toml.entrySettings (registryTree r)) = registrySettings r :=
  Entries.ofList_eq_sorted (registrySettings_sorted r) (.cons _ (.swap _ _ _))

theorem ofList_fieldTree (f : FieldDeclaration) :
    Entries.ofList (Toml.entrySettings (fieldTree f)) = fieldSettings f :=
  Entries.ofList_eq_sorted (fieldSettings_sorted f) (.refl _)

theorem ofList_declarationTree (d : Declaration) :
    Entries.ofList (Toml.entrySettings (declarationTree d)) = declarationSettings d := by
  have hfields : Toml.itemSettings (d.fields.map fieldTree) =
      d.fields.map fun f => .table (fieldSettings f) := by
    rw [Toml.itemSettings_eq_map, List.map_map]
    exact List.map_congr_left fun f _ => congrArg Setting.table (ofList_fieldTree f)
  refine Entries.ofList_eq_sorted (declarationSettings_sorted d) ?_
  show List.Perm [_, ("fields", Setting.list (Toml.itemSettings _))] _
  rw [hfields]
  exact .swap _ _ _

/-- The document of a configuration stands for its settings. -/
theorem ofList_tree (c : Config) : Entries.ofList (Toml.entrySettings c.tree) = c.settings := by
  have hdeclarations : Toml.itemSettings (c.declarations.map declarationTree) =
      c.declarations.map fun d => .table (declarationSettings d) := by
    rw [Toml.itemSettings_eq_map, List.map_map]
    exact List.map_congr_left fun d _ => congrArg Setting.table (ofList_declarationTree d)
  refine Entries.ofList_eq_sorted c.settings_sorted ?_
  show List.Perm [("registry", Setting.table (Entries.ofList (Toml.entrySettings _))), _,
    ("structs", Setting.list (Toml.itemSettings _))] _
  rw [ofList_registryTree, hdeclarations]
  exact .swap _ _ _

theorem fieldTree_plain (f : FieldDeclaration) (depth : Nat) :
    Toml.PlainKeys (fieldTree f) ∧ ∀ e ∈ fieldTree f, Toml.Plain depth e.2 := by
  refine ⟨.of_names ["name", "type"] rfl (by decide) (by decide), fun e he => ?_⟩
  simp only [fieldTree, List.mem_cons, List.not_mem_nil, or_false] at he
  rcases he with rfl | rfl
  · exact .text _ _
  · exact .text _ _

/-- A declaration is written with plain keys and one level of fields. -/
theorem declarationTree_plain (d : Declaration) (depth : Nat) :
    Toml.PlainKeys (declarationTree d) ∧
      ∀ e ∈ declarationTree d, Toml.Plain (depth + 1) e.2 := by
  refine ⟨.of_names ["name", "fields"] rfl (by decide) (by decide), fun e he => ?_⟩
  simp only [declarationTree, List.mem_cons, List.not_mem_nil, or_false] at he
  rcases he with rfl | rfl
  · exact .text _ _
  · exact .tables (List.forall_mem_map.2 fun f _ => (fieldTree_plain f depth).1)
      (List.forall_mem_map.2 fun f _ => (fieldTree_plain f depth).2)

/-- The document of a configuration is plain, whatever its records are called. -/
theorem tree_plain (c : Config) : Toml.PlainDocument c.tree := by
  refine ⟨.of_names ["registry", "output", "structs"] rfl (by decide) (by decide), fun e he => ?_⟩
  simp only [tree, List.mem_cons, List.not_mem_nil, or_false] at he
  rcases he with rfl | rfl | rfl
  · refine .table (.of_names ["builtins", "optional_namespace", "coercible_namespace"] rfl
      (by decide) (by decide)) fun e he => ?_
    simp only [registryTree, List.mem_cons, List.not_mem_nil, or_false] at he
    rcases he with rfl | rfl | rfl
    · exact .flag _ _
    · exact .flag _ _
    · exact .flag _ _
  · refine .table (.of_names ["format"] rfl (by decide) (by decide)) fun e he => ?_
    rw [List.mem_singleton.1 he]
    exact .text _ _
  · exact .tables (List.forall_mem_map.2 fun d _ => (declarationTree_plain d 0).1)
      (List.forall_mem_map.2 fun d _ => (declarationTree_plain d 77).2)

/-! ## Settings decode to their configuration -/

section Decoding

variable {d : Decoder}

/-- The switches are read under their names. -/
theorem registry?_registrySettings (h : d.Plain) (r : RegistrySettings) :
    d.registry? (.table (registrySettings r)) = some r := by
  have hbuiltins : Decoder.optional? (registrySettings r) "builtins" true d.bool? =
      some r.builtins := h.bool r.builtins
  have hoptional : Decoder.optional? (registrySettings r) "optional_namespace" true d.bool? =
      some r.optionalNamespace := h.bool r.optionalNamespace
  have hcoercible : Decoder.optional? (registrySettings r) "coercible_namespace" true d.bool? =
      some r.coercibleNamespace := h.bool r.coercibleNamespace
  simp [Decoder.registry?, h.fields, hbuiltins, hoptional, hcoercible]

theorem output?_name (h : d.Plain) (f : OutputFormat) :
    d.output? (.table [("format", .text f.name)]) = some f := by
  have hformat : Decoder.optional? [("format", .text f.name)] "format" .pretty d.format? =
      some f := Decoder.format?_name h f
  simp [Decoder.output?, h.fields, hformat]

theorem field?_fieldSettings (h : d.Plain) (f : FieldDeclaration) :
    d.field? (.table (fieldSettings f)) = some f := by
  have hname : Decoder.required? (fieldSettings f) "name" d.text? = some f.name := h.text f.name
  have hspec : Decoder.required? (fieldSettings f) "type" d.text? = some f.spec := h.text f.spec
  simp [Decoder.field?, h.fields, hname, hspec]

/-- A declared record is read with its fields in their order. -/
theorem declaration?_declarationSettings (h : d.Plain) (r : Declaration) :
    d.declaration? (.table (declarationSettings r)) = some r := by
  have hname : Decoder.required? (declarationSettings r) "name" d.text? = some r.name :=
    h.text r.name
  have hfields : Decoder.optional? (declarationSettings r) "fields" [] (d.list? d.field?) =
      some r.fields := Decoder.list?_map h (field?_fieldSettings h) r.fields
  simp [Decoder.declaration?, h.fields, hname, hfields]

/-- The settings of a configuration decode to it. -/
theorem decode?_settings (h : d.Plain) (c : Config) : decode? d (.table c.settings) = some c := by
  have hregistry : Decoder.optional? c.settings "registry" .default d.registry? =
      some c.registry := registry?_registrySettings h c.registry
  have hformat : Decoder.optional? c.settings "output" .pretty d.output? = some c.format :=
    output?_name h c.format
  have hdeclarations : Decoder.optional? c.settings "structs" [] (d.list? d.declaration?) =
      some c.declarations := Decoder.list?_map h (declaration?_declarationSettings h) c.declarations
  simp [decode?, h.fields, hregistry, hformat, hdeclarations]

end Decoding

end Config

theorem Setting.ofItems_eq_map (vs : List Value) :
    ofItems vs = vs.map ofValue := by
  induction vs with
  | nil => rfl
  | cons v vs ih => rw [ofItems, ih, List.map_cons]

namespace Config

/-- The value of a configuration has the entries of its settings. -/
theorem ofValue_value (c : Config) : Setting.ofValue c.value = .table c.settings := by
  have hfields (d : Declaration) : Setting.ofItems (d.fields.map fieldValue) =
      d.fields.map fun f => .table (fieldSettings f) := by
    rw [Setting.ofItems_eq_map, List.map_map]
    rfl
  have hdeclarations : Setting.ofItems (c.declarations.map declarationValue) =
      c.declarations.map fun d => .table (declarationSettings d) := by
    rw [Setting.ofItems_eq_map, List.map_map]
    refine List.map_congr_left fun d _ => ?_
    show Setting.table [("fields", .list (Setting.ofItems _)), ("name", .text d.name)] = _
    rw [hfields]
    rfl
  show Setting.table [_, _, ("structs", .list (Setting.ofItems _))] = _
  rw [hdeclarations]
  rfl

/-- A configuration is given back by its value. -/
theorem ofValue?_value (c : Config) : ofValue? c.value = some c := by
  rw [ofValue?, ofValue_value]
  exact decode?_settings Decoder.strict_plain c

end Config

/-! ## Running plans -/

namespace Plan

variable {α β : Type}

/-- A plan and what it goes on with run one after the other. -/
theorem runOn_bind (input : String) (files : Files) (p : Plan α) (f : α → Plan β) :
    (p >>= f).runOn input files =
      (f (p.runOn input files).1).runOn input (p.runOn input files).2 := by
  show (p.andThen f).runOn input files = _
  induction p generalizing files with
  | done a => rfl
  | fetch path next ih => exact ih _ files
  | listen next ih => exact ih _ files
  | store path text next ih =>
    simp only [andThen, runOn]
    cases files.write path text with
    | ok files => exact ih _ files
    | error fault => exact ih _ files

theorem runOn_file (input : String) (files : Files) (path : String) :
    (Plan.file path).runOn input files = (files.read path, files) := rfl

end Plan

/-! ## What is asked of a backend -/

namespace Config.Backend

/-- Every plain document has a text, and the text is read as what the document stands for. -/
def RoundTrips (b : Backend) : Prop :=
  ∀ es, Toml.PlainDocument es →
    ∃ text, b.write es = .ok text ∧ b.read? text = some (Entries.ofList (Toml.entrySettings es))

/-- The entries of a single source are handed on as they are. -/
structure HandsOn (b : Backend) : Prop where
  /-- An environment without variables of the configuration gives nothing. -/
  environment : ∀ env : List (String × String),
    (∀ v ∈ env, ¬variablePrefix.toList <+: (Text.lowercase v.1).toList) → b.environment env = []
  /-- A source that gives nothing adds nothing. -/
  merge_nothing : ∀ sources, b.merge (sources ++ [[]]) = b.merge sources
  /-- One plain document is all there is. -/
  merge_one : ∀ es, Toml.PlainDocument es →
    b.merge [Entries.ofList (Toml.entrySettings es)] =
      .table (Entries.ofList (Toml.entrySettings es))

/-- Looking for a name among some files comes to `found`, and leaves the files alone. -/
def Finds (b : Backend) (files : Files) (name : String) (found : Found) : Prop :=
  ∀ input, (b.find name).runOn input files = (found, files)

/-- The text that is found under a path is the only source: there are no documents in the usual
    places, and no variables that belong to the configuration. -/
structure OnlySource (b : Backend) (around : Surroundings) (files : Files) (path text : String) :
    Prop where
  noDefault : ∀ name ∈ defaultNames, b.Finds files name .nothing
  noHome : ∀ dir ∈ around.configHome, b.Finds files (homeName dir) .nothing
  noVariable : ∀ v ∈ around.env, ¬variablePrefix.toList <+: (Text.lowercase v.1).toList
  document : b.Finds files path (.document text)

variable {b : Backend} {files : Files}

/-- When nothing is found under the names, nothing is loaded. -/
theorem runOn_findAll_of_nothing {names : List String}
    (h : ∀ name ∈ names, b.Finds files name .nothing) (input : String) :
    (b.findAll names).runOn input files = ([], files) := by
  induction names with
  | nil => rfl
  | cons name names ih =>
    obtain ⟨hname, hnames⟩ := List.forall_mem_cons.1 h
    rw [findAll, Plan.runOn_bind, hname, Plan.runOn_bind, ih hnames]
    rfl

/-- Nothing is found in the user's directory, whether or not something of the name is there. -/
theorem runOn_findHome_of_nothing {home : Option String}
    (h : ∀ dir ∈ home, b.Finds files (homeName dir) .nothing) (input : String) :
    (b.findHome home).runOn input files = ([], files) := by
  cases home with
  | none => rfl
  | some dir =>
    have hall : (b.findAll [homeName dir]).runOn input files = ([], files) :=
      runOn_findAll_of_nothing (fun name hname => List.mem_singleton.1 hname ▸ h dir rfl) input
    rw [findHome, Plan.runOn_bind, Plan.runOn_file]
    cases files.read (homeName dir) with
    | ok text => exact hall
    | error e =>
      cases e with
      | directory => exact hall
      | _ => rfl

/-! ## Main result -/

/-- The text of a configuration, with no variables that belong to it, describes it. -/
theorem ofSources?_written (hsource : b.HandsOn) (hdecoder : b.decoder.Plain) {c : Config}
    {text : String} (hread : b.read? text = some c.settings) {env : List (String × String)}
    (henv : ∀ v ∈ env, ¬variablePrefix.toList <+: (Text.lowercase v.1).toList) :
    b.ofSources? [text] env = some c := by
  have hsources : [text].mapM b.read? = some [c.settings] := by
    rw [List.mapM_cons, hread]
    rfl
  have hone := hsource.merge_one c.tree c.tree_plain
  rw [ofList_tree] at hone
  rw [ofSources?, hsources, Option.bind_eq_bind, Option.bind_some, hsource.environment env henv,
    hsource.merge_nothing, hone]
  exact decode?_settings hdecoder c

/-- **A saved configuration loads back unchanged.**  Every configuration has a text, whatever its
    records are called and however many there are.  Loading a file with that text as the only
    source gives the configuration again, with its records and their fields in the same order, and
    leaves the files alone. -/
theorem saved_text_loads_back (b : Backend) (hformat : b.RoundTrips) (hsource : b.HandsOn)
    (hdecoder : b.decoder.Plain) (c : Config) :
    ∃ text, b.written c = .ok text ∧
      ∀ around files path input, b.OnlySource around files path text →
        (b.load around (some path)).runOn input files = (some c, files) := by
  obtain ⟨text, hwritten, hread⟩ := hformat c.tree c.tree_plain
  rw [ofList_tree] at hread
  refine ⟨text, hwritten, fun around files path input h => ?_⟩
  have hdefaults := runOn_findAll_of_nothing h.noDefault input
  have hhome := runOn_findHome_of_nothing h.noHome input
  have hnamed : (b.findNamed (some path)).runOn input files = (some [text], files) := by
    rw [findNamed, Plan.runOn_bind, h.document]
    rfl
  rw [load, Plan.runOn_bind, hdefaults, Plan.runOn_bind, hhome, Plan.runOn_bind, hnamed]
  show (b.ofSources? [text] around.env, files) = _
  rw [ofSources?_written hsource hdecoder hread h.noVariable]

end Config.Backend

/-! ## Laying -/

namespace Setting

/-- A word is a path of one step. -/
theorem readPath_of_isWord {k : String} (hword : Toml.isWord k = true) : readPath k = (k, []) := by
  have h : ∀ c ∈ k.toList, inPathName c = true := fun c hc => by
    rw [inPathName, Toml.isAlphanum_or_of_isWord hword hc, Bool.true_or, Bool.true_or]
  have htake : k.toList.takeWhile inPathName = k.toList := List.takeWhile_eq_self_iff.2 h
  have hdrop : k.toList.dropWhile inPathName = [] := List.dropWhile_eq_nil_iff.2 h
  simp only [readPath, htake, hdrop, readSteps?, String.ofList_toList]
  split <;> rfl

/-- An entry that stays as it is when it is laid over nothing: its key is in lower case, and so are
    the keys in its value. -/
structure Stays (e : String × Setting) : Prop where
  key : Text.lowercase e.1 = e.1
  value : overlay none e.2 = e.2

theorem insert_last {k : String} {v : Setting} {es : Entries Setting} (h : ∀ e ∈ es, e.1 < k) :
    es.insert k v = es ++ [(k, v)] := by
  induction es with
  | nil => rfl
  | cons e es ih =>
    obtain ⟨hlt, hes⟩ := List.forall_mem_cons.1 h
    rw [Entries.insert, if_neg (String.lt_asymm hlt), if_neg (Ne.symm (String.ne_of_lt hlt)),
      ih hes]
    rfl

/-- Entries that stay, laid over others in front of them, come to stand behind those. -/
theorem overlayAll_append {acc es : Entries Setting} (hstay : ∀ e ∈ es, Stays e)
    (hsorted : Entries.Sorted (acc ++ es)) : overlayAll (table acc) es = table (acc ++ es) := by
  induction es generalizing acc with
  | nil =>
    rw [List.append_nil]
    rfl
  | cons e es ih =>
    obtain ⟨he, hes⟩ := List.forall_mem_cons.1 hstay
    have hbefore : ∀ a ∈ acc, a.1 < e.1 := fun a ha =>
      (List.pairwise_append.1 hsorted).2.2 a ha e List.mem_cons_self
    have hnone : acc.get? e.1 = none :=
      Entries.get?_eq_none fun a ha => String.ne_of_lt (hbefore a ha)
    rw [List.append_cons] at hsorted ⊢
    rw [overlayAll]
    simp only [he.key, entriesOf, hnone, he.value, insert_last hbefore]
    exact ih hes hsorted

/-- Laid over nothing, a table of settings that stay comes out as it is. -/
theorem overlay_table {es : Entries Setting} (hstay : ∀ e ∈ es, Stays e) (hsorted : es.Sorted) :
    overlay none (table es) = table es := by
  rw [overlay]
  exact overlayAll_append hstay hsorted

/-- Where no key is a longer path, a source is laid like a table. -/
theorem lay_eq_overlayAll {es : Entries Setting}
    (hkey : ∀ e ∈ es, readPath (Text.lowercase e.1) = (e.1, [])) (root : Setting) :
    lay root es = overlayAll root es := by
  induction es generalizing root with
  | nil => rfl
  | cons e es ih =>
    obtain ⟨he, hes⟩ := List.forall_mem_cons.1 hkey
    have hentry : layEntry root e = overlayAll root [e] := by
      simp only [layEntry, he]
      rfl
    have hstep : lay root (e :: es) = lay (layEntry root e) es := by
      simp only [lay, List.foldl_cons]
    rw [hstep, ih hes, hentry]
    rfl

/-- The entries of a plain document stay as they are. -/
theorem stays_of_mem {es : List (String × Toml.Tree)} (hkeys : Toml.PlainKeys es)
    (h : ∀ e ∈ es, overlay none e.2.setting = e.2.setting) :
    ∀ e ∈ Entries.ofList (Toml.entrySettings es), Stays e := by
  intro e he
  have hmem := Entries.mem_of_mem_ofList he
  rw [Toml.entrySettings_eq_map] at hmem
  obtain ⟨a, ha, rfl⟩ := List.mem_map.1 hmem
  exact ⟨Text.lowercase_of_isWord (hkeys.word a ha), h a ha⟩

end Setting

/-- A plain value laid over nothing is what it was. -/
theorem Toml.Plain.stays {depth : Nat} {v : Tree} (h : Plain depth v) :
    Setting.overlay none v.setting = v.setting := by
  induction h with
  | flag | text | tables => rfl
  | table hkeys _ ih =>
    exact Setting.overlay_table (Setting.stays_of_mem hkeys ih) (Entries.sorted_ofList _)

/-- A plain document laid over nothing is all there is. -/
theorem Toml.PlainDocument.lay_eq {es : List (String × Tree)} (h : PlainDocument es) :
    Setting.lay (.table []) (Entries.ofList (entrySettings es)) =
      .table (Entries.ofList (entrySettings es)) := by
  have hstay := Setting.stays_of_mem h.keys fun e he => (h.plain e he).stays
  have hkeys : ∀ e ∈ Entries.ofList (entrySettings es),
      Setting.readPath (Text.lowercase e.1) = (e.1, []) := by
    intro e he
    have hmem := List.mem_map_of_mem (f := Prod.fst) (Entries.mem_of_mem_ofList he)
    rw [map_fst_entrySettings] at hmem
    obtain ⟨a, ha, hkey⟩ := List.mem_map.1 hmem
    rw [(hstay e he).key, ← hkey]
    exact Setting.readPath_of_isWord (h.keys.word a ha)
  rw [Setting.lay_eq_overlayAll hkeys]
  exact Setting.overlayAll_append hstay (Entries.sorted_ofList _)

/-! ## The backend in use -/

namespace Config

/-- Without variables of its own the environment adds no setting. -/
theorem environment_eq_nil {env : List (String × String)}
    (h : ∀ v ∈ env, ¬variablePrefix.toList <+: (Text.lowercase v.1).toList) :
    environment env = [] := by
  have hnone : env.filterMap (fun v =>
      (variableKey? v.1).map fun key => (key, variableSetting v.2)) = [] := by
    refine List.filterMap_eq_nil_iff.2 fun v hv => ?_
    have hkey : variableKey? v.1 = none :=
      if_neg fun hstart => h v hv (List.isPrefixOf_iff_prefix.1 hstart)
    rw [hkey]
    rfl
  rw [environment, hnone]
  rfl

namespace Backend

/-- The text of a plain document is read back as its settings. -/
theorem toml_roundTrips : toml.RoundTrips := fun es h => ⟨Toml.write es, rfl, Toml.read?_write h⟩

theorem toml_handsOn : toml.HandsOn where
  environment _ h := environment_eq_nil h
  merge_nothing sources := by
    show (sources ++ [[]]).foldl Setting.lay (.table []) = _
    rw [List.foldl_append]
    rfl
  merge_one _ h := h.lay_eq

end Backend

/-- What looking for a document among some files comes to. -/
def found (files : Files) (name : String) : Found :=
  match files.read name with
  | .ok text => if isTomlName name then .document text else .unknownForm
  | .error _ =>
    match bareName? name with
    | none => .nothing
    | some bare =>
      match files.read (bare ++ ".toml") with
      | .ok text => .document text
      | .error _ => .nothing

/-- Looking for a document leaves the files alone. -/
theorem runOn_find (name : String) : (find name).runOn input files = (found files name, files) := by
  rw [find, Plan.runOn_bind, Plan.runOn_file, found]
  cases files.read name with
  | ok text => rfl
  | error e =>
    cases bareName? name with
    | none => rfl
    | some bare =>
      show (Plan.file (bare ++ ".toml") >>= _).runOn input files =
        (match files.read (bare ++ ".toml") with
          | .ok text => Found.document text
          | .error _ => .nothing, files)
      rw [Plan.runOn_bind, Plan.runOn_file]
      cases files.read (bare ++ ".toml") <;> rfl

theorem finds_found (files : Files) (name : String) :
    Backend.toml.Finds files name (found files name) := fun _ => runOn_find name

end Config

/-! ## A file in the working directory -/

section Paths

open String

/-- The loop that cuts a text at its slashes, before the characters `rest`: it has cut off what lies
    in `before`, and `piece` belongs to the next name. -/
theorem splitOnAux_slash (before piece rest : List Char) (acc : List String) :
    String.splitOnAux (ofList (before ++ piece ++ rest)) "/" ⟨utf8Len before⟩
        ⟨utf8Len before + utf8Len piece⟩ 0 acc =
      acc.reverse ++ (List.splitOnPPrepend (· == '/') rest piece.reverse).map ofList := by
  rw [String.splitOnAux]
  cases rest with
  | nil =>
    have hend : Pos.Raw.atEnd (ofList (before ++ piece))
        ⟨utf8Len before + utf8Len piece⟩ = true := by
      simpa [utf8Len_append] using (atEnd_of_valid (before ++ piece) []).2 rfl
    have hextract := extract_of_valid before piece []
    rw [List.append_nil] at hextract ⊢
    rw [if_pos hend, hextract]
    simp
  | cons c rest =>
    have hend : ¬Pos.Raw.atEnd (ofList (before ++ piece ++ c :: rest))
        ⟨utf8Len before + utf8Len piece⟩ = true := by
      simpa [utf8Len_append] using atEnd_of_valid (before ++ piece) (c :: rest)
    have hget : Pos.Raw.get (ofList (before ++ piece ++ c :: rest))
        ⟨utf8Len before + utf8Len piece⟩ = c := by
      simpa [-ofList_append] using get_of_valid (before ++ piece) (c :: rest)
    have hnext : Pos.Raw.next (ofList (before ++ piece ++ c :: rest))
        ⟨utf8Len before + utf8Len piece⟩ = ⟨utf8Len before + utf8Len piece + c.utf8Size⟩ := by
      simpa [-ofList_append] using next_of_valid (before ++ piece) c rest
    have hextract := extract_of_valid before piece (c :: rest)
    have hslash : Pos.Raw.get "/" 0 = '/' := by decide +kernel
    rw [if_neg hend, hget, hslash, List.splitOnPPrepend_cons_eq_if]
    by_cases hc : c = '/'
    · subst hc
      have hsep : Pos.Raw.atEnd "/" (Pos.Raw.next "/" 0) = true := by decide +kernel
      have ih := splitOnAux_slash (before ++ piece ++ ['/']) [] rest (ofList piece :: acc)
      have hback : Pos.Raw.unoffsetBy ⟨utf8Len before + utf8Len piece + '/'.utf8Size⟩
          (Pos.Raw.next "/" 0) = ⟨utf8Len before + utf8Len piece⟩ := rfl
      simp only [beq_self_eq_true, if_true, hsep, hnext, hback, hextract]
      simpa [-ofList_append, Nat.add_assoc] using ih
    · have ih := splitOnAux_slash before (piece ++ [c]) rest acc
      have hne : (c == '/') = false := by simpa using hc
      have hback : Pos.Raw.unoffsetBy ⟨utf8Len before + utf8Len piece⟩ 0 =
          ⟨utf8Len before + utf8Len piece⟩ := rfl
      simp only [hne, Bool.false_eq_true, if_false, hback, hnext]
      simpa [-ofList_append, Nat.add_assoc] using ih

/-- A text cut at its slashes, character by character. -/
theorem splitOn_slash (s : String) :
    s.splitOn "/" = (s.toList.splitOnP (· == '/')).map ofList := by
  have h := splitOnAux_slash [] [] s.toList []
  rw [String.splitOn, if_neg (by decide)]
  simpa using h

end Paths

namespace Config

/-- A configuration whose texts need all the written forms. -/
def quotesAndEscapes : Config :=
  ⟨⟨true, false, true⟩, .compact,
    [⟨"it's \"so\"\n\\", [⟨"", "array<\u0007>"⟩, ⟨"a\\b", "\"\"\"\r\n"⟩]⟩, ⟨"\"empty\"", []⟩]⟩

open Backend in
theorem saved_text_loads_back_at_quotes :
    toml.RoundTrips ∧ toml.HandsOn ∧ toml.decoder.Plain ∧
      ∃ text, toml.written quotesAndEscapes = .ok text ∧
        toml.OnlySource ⟨[("HOME", "/root")], some "/root/.config"⟩
          [(⟨.working 0, ["saved.toml"]⟩, .text text)] "saved.toml" text ∧
        (toml.load ⟨[("HOME", "/root")], some "/root/.config"⟩ (some "saved.toml")).runOn ""
            [(⟨.working 0, ["saved.toml"]⟩, .text text)] =
          (some quotesAndEscapes, [(⟨.working 0, ["saved.toml"]⟩, .text text)]) := by
  obtain ⟨text, hwritten, hload⟩ := saved_text_loads_back toml toml_roundTrips toml_handsOn
    Decoder.lenient_plain quotesAndEscapes
  obtain rfl : quotesAndEscapes.toToml = text := Except.ok.inj hwritten
  have hnothing (name : String)
      (h : found [(⟨.working 0, ["saved.toml"]⟩, .text quotesAndEscapes.toToml)] name = .nothing) :
      toml.Finds _ name .nothing := h ▸ finds_found _ name
  have honly : toml.OnlySource ⟨[("HOME", "/root")], some "/root/.config"⟩
      [(⟨.working 0, ["saved.toml"]⟩, .text quotesAndEscapes.toToml)] "saved.toml"
      quotesAndEscapes.toToml := by
    refine ⟨fun name hname => hnothing name ?_, fun dir hdir => hnothing _ ?_, ?_, ?_⟩
    · revert name
      simp only [found, Files.read, Files.locate, Files.names, bareName?, splitOn_slash]
      decide +kernel
    · obtain rfl : "/root/.config" = dir := Option.some.inj hdir
      simp only [found, Files.read, Files.locate, Files.names, bareName?, splitOn_slash]
      decide +kernel
    · intro v hv
      rw [List.mem_singleton.1 hv]
      decide +kernel
    · have hnames : Files.names "saved.toml" = .ok ["saved.toml"] := by
        rw [Files.names, splitOn_slash]
        rfl
      have hstart : Files.start "saved.toml" = ⟨.working 0, []⟩ := by decide +kernel
      have hfound : found [(⟨.working 0, ["saved.toml"]⟩, .text quotesAndEscapes.toToml)]
          "saved.toml" = .document quotesAndEscapes.toToml := by
        rw [found, Files.read, Files.locate, hnames, hstart]
        rfl
      exact hfound ▸ finds_found _ _
  exact ⟨toml_roundTrips, toml_handsOn, Decoder.lenient_plain, _, hwritten, honly,
    hload _ _ _ _ honly⟩

end Config

end ValueTypes
