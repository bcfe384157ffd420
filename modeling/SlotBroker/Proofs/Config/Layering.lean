import SlotBroker.Client.Address
import SlotBroker.Proofs.Config.Fields
import SlotBroker.Proofs.Toml.Distinct

/-!
# Which layer a setting is taken from

Every setting of a configuration has a value of its own in each layer, or none. A variable that
spells out the key of the setting counts before a variable with a name of its own, that before the
file, and that before the default; what the layers say of other settings does not matter.
-/

namespace SlotBroker

/-- The value at the end of a path of keys. -/
def Toml.Value.at? : List String → Toml.Value → Option Toml.Value
  | [], v => some v
  | k :: path, .table ms => (Assoc.get? k ms).bind (Toml.Value.at? path)
  | _ :: _, _ => none

def Toml.Value.isTable : Toml.Value → Bool
  | .table _ => true
  | _ => false

theorem Toml.Value.isTable_iff {v : Toml.Value} : v.isTable ↔ ∃ ms, v = .table ms := by
  cases v <;> simp [isTable]

namespace Config

open Setting (ofVariable keyOfVariable? aliases Apart Clear)

variable {file : List (String × Toml.Value)} {env : Environment} {path : List String}

/-- The name of a variable is a given one, in letters of any case. -/
def Bears (name : String) (n : String) : Prop :=
  Text.lowerAscii (Text.trimmed n) = Text.lowerAscii name

instance (name n : String) : Decidable (Bears name n) := inferInstanceAs (Decidable (_ = _))

/-- What the variable says that spells out a key. -/
def spelled (env : Environment) (path : List String) : Option Setting :=
  (env.find? fun v => keyOfVariable? v.1 = some path).map fun v => ofVariable .variables v.2

/-- What the variable says that has a name of its own for a key. -/
def aliased (env : Environment) (path : List String) : Option Setting :=
  (aliases.find? fun a => a.2 = path).bind fun a =>
    (env.find? fun v => Bears a.1 v.1).map fun v => ofVariable .alias v.2

/-- What the file says of a key. -/
def filed (file : List (String × Toml.Value)) (path : List String) : Option Setting :=
  ((Toml.Value.table file).at? path).map Setting.ofToml

/-- What is said of a key above the defaults. -/
def told (file : List (String × Toml.Value)) (env : Environment) (path : List String) :
    Option Setting :=
  (spelled env path).or ((aliased env path).or (filed file path))

/-- A file and an environment that tell of each setting at most once in each layer, and of nothing
below a setting, and what fits. -/
structure Admissible (file : List (String × Toml.Value)) (env : Environment) : Prop where
  /-- The sections of the file are tables. -/
  tables : ∀ S ∈ Section.all, ∀ v ∈ Assoc.get? S.field.key file, v.isTable
  /-- No two variables spell out the same key. -/
  distinct : (env.filterMap fun v => keyOfVariable? v.1).Nodup
  /-- No variable spells out the key of a section, or a key below that of a setting. -/
  whole : ∀ v ∈ env, ∀ key ∈ keyOfVariable? v.1, ∀ leaf ∈ leaves, Apart leaf.path key
  /-- No two variables have the same one of the names that are not spelled out. -/
  once : ∀ a ∈ aliases, (env.countP fun v => Bears a.1 v.1) ≤ 1
  /-- What counts for a setting fits it. -/
  fits : ∀ leaf ∈ leaves, ∀ s ∈ told file env leaf.path, leaf.read.Fits s

theorem admissible_iff : Admissible file env ↔
    (∀ S ∈ Section.all, ∀ v ∈ Assoc.get? S.field.key file, v.isTable) ∧
      (env.filterMap fun v => keyOfVariable? v.1).Nodup ∧
      (∀ v ∈ env, ∀ key ∈ keyOfVariable? v.1, ∀ leaf ∈ leaves, Apart leaf.path key) ∧
      (∀ a ∈ aliases, (env.countP fun v => Bears a.1 v.1) ≤ 1) ∧
      ∀ leaf ∈ leaves, ∀ s ∈ told file env leaf.path, leaf.read.Fits s := by
  constructor
  · intro h
    refine ⟨h.tables, ?_, ?_, ?_, ?_⟩
    · exact h.distinct
    · exact h.whole
    · exact h.once
    · exact h.fits
  · rintro ⟨htables, hdistinct, hwhole, honce, hfits⟩
    constructor
    · exact htables
    · exact hdistinct
    · exact hwhole
    · exact honce
    · exact hfits

instance : Decidable (Admissible file env) := decidable_of_iff _ admissible_iff.symm

/-- A variable sets a key. -/
def Sets (v : String × String) (path : List String) : Prop :=
  keyOfVariable? v.1 = some path ∨ ∃ a ∈ aliases, a.2 = path ∧ Bears a.1 v.1

/-! ## The layers one by one -/

variable {leaf : Leaf}

theorem clear_leaf {l : Layer} {ms : List (String × Setting)} (hk : (Assoc.keys ms).Nodup)
    (hs : ∀ v, Assoc.get? leaf.part ms = some v →
      ∃ l' ms', v = .group l' ms' ∧ (Assoc.keys ms').Nodup) :
    Clear leaf.path (.group l ms) := by
  refine ⟨hk, fun v hv => ?_⟩
  obtain ⟨l', ms', rfl, hk'⟩ := hs v hv
  exact ⟨hk', fun _ _ => trivial⟩

theorem clear_toSetting (c : Config) : Clear leaf.path c.toSetting := by
  refine clear_leaf (by simp) fun v hv => ?_
  have hm := Assoc.mem_of_get? hv
  simp only [List.mem_cons, Prod.mk.injEq, List.not_mem_nil, or_false] at hm
  rcases hm with ⟨-, rfl⟩ | ⟨-, rfl⟩ | ⟨-, rfl⟩ | ⟨-, rfl⟩ | ⟨-, rfl⟩
  all_goals exact ⟨_, _, rfl, by simp⟩

theorem membersOfToml_eq (ms : List (String × Toml.Value)) :
    Setting.membersOfToml ms = ms.map fun m => (m.1, Setting.ofToml m.2) := by
  induction ms with
  | nil => rfl
  | cons m ms ih => rw [Setting.membersOfToml, ih, List.map_cons]

theorem keys_membersOfToml (ms : List (String × Toml.Value)) :
    Assoc.keys (Setting.membersOfToml ms) = Assoc.keys ms := by
  rw [membersOfToml_eq, Assoc.keys, List.map_map]
  rfl

theorem get?_membersOfToml (k : String) (ms : List (String × Toml.Value)) :
    Assoc.get? k (Setting.membersOfToml ms) = (Assoc.get? k ms).map Setting.ofToml := by
  induction ms with
  | nil => rfl
  | cons m ms ih =>
    rw [Setting.membersOfToml]
    by_cases hk : m.1 = k <;> simp [Assoc.get?, hk, ih]

theorem at?_ofToml (h : Setting.momentKey ∉ path) (v : Toml.Value) :
    (Setting.ofToml v).at? path = (v.at? path).map Setting.ofToml := by
  induction path generalizing v with
  | nil => rfl
  | cons k path ih =>
    obtain ⟨hk, hpath⟩ := not_or.1 (mt List.mem_cons.2 h)
    cases v with
    | bool | int | float | text | list => rfl
    | moment => simp [Setting.ofToml, Setting.at?_cons_group, Assoc.get?, hk, Toml.Value.at?]
    | table ms =>
      rw [Setting.ofToml, Setting.at?_cons_group, get?_membersOfToml, Toml.Value.at?]
      cases Assoc.get? k ms with
      | none => rfl
      | some v => exact ih hpath v

theorem momentKey_leaves : ∀ leaf ∈ leaves, Setting.momentKey ∉ leaf.path := by
  decide

theorem clear_ofToml (hd : (Toml.Value.table file).Distinct) (ha : Admissible file env)
    (hm : leaf ∈ leaves) : Clear leaf.path (Setting.ofToml (.table file)) := by
  obtain ⟨S, hS, f, -, rfl⟩ := mem_leaves.1 hm
  obtain ⟨hk, hmem⟩ := hd.of_table
  rw [Setting.ofToml]
  refine clear_leaf (keys_membersOfToml file ▸ hk) fun v hv => ?_
  rw [get?_membersOfToml] at hv
  obtain ⟨w, hw, rfl⟩ := Option.map_eq_some_iff.1 hv
  obtain ⟨ms, rfl⟩ := Toml.Value.isTable_iff.1 (ha.tables S hS w hw)
  have hd' : (Toml.Value.table ms).Distinct := hmem _ (Assoc.mem_of_get? hw)
  refine ⟨.file, Setting.membersOfToml ms, by rw [Setting.ofToml], ?_⟩
  exact keys_membersOfToml ms ▸ hd'.of_table.1

theorem apart_aliases : ∀ leaf ∈ leaves, ∀ a ∈ aliases, Apart leaf.path a.2 := by
  decide

theorem nodup_of_length_le_one {α : Type} {xs : List α} (h : xs.length ≤ 1) : xs.Nodup := by
  match xs, h with
  | [], _ => exact List.nodup_nil
  | [x], _ => exact List.pairwise_singleton _ x

theorem ofAlias_layer {a : String × List String} (hm : leaf ∈ leaves) (ha : a ∈ aliases)
    (hone : (env.countP fun v => Bears a.1 v.1) ≤ 1) :
    Clear leaf.path (Setting.ofAlias a.1 a.2 env) ∧
      (Setting.ofAlias a.1 a.2 env).at? leaf.path =
        if a.2 = leaf.path then
          (env.find? fun v => Bears a.1 v.1).map fun v => ofVariable .alias v.2
        else none := by
  let key? (n : String) : Option (List String) := if Bears a.1 n then some a.2 else none
  have hnames : (env.filterMap fun v => key? v.1).Nodup := by
    refine nodup_of_length_le_one ?_
    rw [List.length_filterMap_eq_countP]
    refine Nat.le_trans (List.countP_mono_left fun v _ hv => ?_) hone
    obtain ⟨target, ht⟩ := Option.isSome_iff_exists.1 hv
    exact decide_eq_true (Option.ite_none_right_eq_some.1 ht).1
  have hlayer : Clear leaf.path (Setting.ofAlias a.1 a.2 env) ∧
      (Setting.ofAlias a.1 a.2 env).at? leaf.path =
        (env.find? fun v => key? v.1 = some leaf.path).map fun v => ofVariable .alias v.2 := by
    refine Setting.ofEnvironment_layer (fun v _ target ht => ?_) hnames
    cases (Option.ite_none_right_eq_some.1 ht).2
    exact apart_aliases leaf hm a ha
  refine ⟨hlayer.1, hlayer.2.trans ?_⟩
  by_cases hp : a.2 = leaf.path
  · simp [key?, hp]
  · simp [key?, hp]

theorem spelled_layer (ha : Admissible file env) (hm : leaf ∈ leaves) :
    Clear leaf.path (Setting.ofEnvironment .variables keyOfVariable? env) ∧
      (Setting.ofEnvironment .variables keyOfVariable? env).at? leaf.path =
        spelled env leaf.path :=
  Setting.ofEnvironment_layer (fun v hv key hk => ha.whole v hv key hk leaf hm) ha.distinct

/-! ## All layers -/

theorem clear_layers (hd : (Toml.Value.table file).Distinct) (ha : Admissible file env)
    (hm : leaf ∈ leaves) : ∀ x ∈ layers file env, Clear leaf.path x := by
  simp only [layers, Setting.environmentLayers, List.mem_cons, List.mem_append, List.mem_map,
    List.not_mem_nil, or_false]
  rintro x (rfl | rfl | ⟨a, hmem, rfl⟩ | rfl)
  · exact clear_toSetting standard
  · exact clear_ofToml hd ha hm
  · exact (ofAlias_layer hm hmem (ha.once a hmem)).1
  · exact (spelled_layer ha hm).1

/-- Of several layers, each of which says something of its own key alone, the one whose key it is
counts. -/
theorem findSome?_keyed {as : List (String × List String)} {layer : String × List String → Setting}
    {said : String × List String → Option Setting} (hd : (as.map Prod.snd).Nodup)
    (h : ∀ a ∈ as, (layer a).at? path = if a.2 = path then said a else none) :
    (as.map layer).reverse.findSome? (Setting.at? path) =
      (as.find? fun a => a.2 = path).bind said := by
  induction as with
  | nil => rfl
  | cons a as ih =>
    obtain ⟨hne, hd⟩ := List.nodup_cons.1 hd
    have ih := ih hd fun b hb => h b (List.mem_cons_of_mem _ hb)
    rw [List.map_cons, List.reverse_cons, List.findSome?_append, ih, List.findSome?_singleton,
      h a (by simp)]
    by_cases hp : a.2 = path
    · have hnone : as.find? (fun b => b.2 = path) = none := by
        refine List.find?_eq_none.2 fun b hb hbp => hne ?_
        rw [hp, ← of_decide_eq_true hbp]
        exact List.mem_map_of_mem hb
      simp [hp, hnone]
    · simp [hp]

theorem findSome?_layers (ha : Admissible file env) (hm : leaf ∈ leaves) :
    (layers file env).reverse.findSome? (Setting.at? leaf.path) =
      (told file env leaf.path).or (standard.toSetting.at? leaf.path) := by
  have hown : (aliases.map fun a => Setting.ofAlias a.1 a.2 env).reverse.findSome?
      (Setting.at? leaf.path) = aliased env leaf.path :=
    findSome?_keyed (by decide) fun a hmem => (ofAlias_layer hm hmem (ha.once a hmem)).2
  have hfile : (Setting.ofToml (.table file)).at? leaf.path = filed file leaf.path :=
    at?_ofToml (momentKey_leaves leaf hm) _
  have horder : (layers file env).reverse =
      Setting.ofEnvironment .variables keyOfVariable? env ::
        ((aliases.map fun a => Setting.ofAlias a.1 a.2 env).reverse ++
          [Setting.ofToml (.table file), standard.toSetting]) := by
    simp [layers, Setting.environmentLayers]
  rw [horder, List.findSome?_cons, List.findSome?_append, hown, (spelled_layer ha hm).2,
    List.findSome?_cons, List.findSome?_singleton, hfile, told]
  cases spelled env leaf.path <;> cases aliased env leaf.path <;>
    cases filed file leaf.path <;> rfl

theorem settled_fits (ha : Admissible file env) (hm : leaf ∈ leaves) :
    ∃ s, (told file env leaf.path).or (standard.toSetting.at? leaf.path) = some s ∧
      leaf.read.Fits s := by
  cases ht : told file env leaf.path with
  | some s => exact ⟨s, rfl, ha.fits leaf hm s ht⟩
  | none =>
    obtain ⟨s, hs, hfit⟩ := standard_fits leaf hm
    exact ⟨s, hs, _, hfit⟩

/-- Of every setting the layers together say what the highest of them says. -/
theorem at?_settings (hd : (Toml.Value.table file).Distinct) (ha : Admissible file env)
    (hm : leaf ∈ leaves) : (settings file env).at? leaf.path =
      (told file env leaf.path).or (standard.toSetting.at? leaf.path) := by
  rw [← findSome?_layers ha hm]
  refine Setting.at?_mergeAll (clear_layers hd ha hm) fun s hs => ?_
  obtain ⟨t, ht, a, hread⟩ := settled_fits ha hm
  have hst : s = t := Option.some.inj (hs.symm.trans ((findSome?_layers ha hm).trans ht))
  -- what counts fits, so it is no group into which something of a lower layer is merged
  rintro l ms rfl
  exact noGroup_leaves leaf hm l ms a (hst ▸ hread)

/-! ## One variable more -/

variable {pre post : Environment} {v : String × String}

theorem find?_insert {p : String × String → Prop} [DecidablePred p] (h : ¬ p v) :
    (pre ++ v :: post).find? (fun w => p w) = (pre ++ post).find? fun w => p w := by
  simp [List.find?_append, h]

theorem told_insert (h : ¬ Sets v path) :
    told file (pre ++ v :: post) path = told file (pre ++ post) path := by
  have hspelled : spelled (pre ++ v :: post) path = spelled (pre ++ post) path := by
    have hk : keyOfVariable? v.1 ≠ some path := fun hk => h (Or.inl hk)
    rw [spelled, spelled, find?_insert (p := fun w => keyOfVariable? w.1 = some path) hk]
  have haliased : aliased (pre ++ v :: post) path = aliased (pre ++ post) path := by
    rw [aliased, aliased]
    cases hf : aliases.find? fun a => a.2 = path with
    | none => rfl
    | some a =>
      have hp : a.2 = path := by simpa using List.find?_some hf
      have hb : ¬ Bears a.1 v.1 := fun hb =>
        h (Or.inr ⟨a, List.mem_of_find?_eq_some hf, hp, hb⟩)
      rw [Option.bind_some, Option.bind_some, find?_insert (p := fun w => Bears a.1 w.1) hb]
  rw [told, told, hspelled, haliased]

theorem Admissible.without (ha : Admissible file (pre ++ v :: post))
    (h : ∀ leaf ∈ leaves, ¬ Sets v leaf.path) : Admissible file (pre ++ post) := by
  have hsub : (pre ++ post).Sublist (pre ++ v :: post) :=
    (List.Sublist.refl pre).append (List.sublist_cons_self v post)
  constructor
  case tables => exact ha.tables
  case distinct => exact ha.distinct.sublist (hsub.filterMap _)
  case whole => exact fun w hw => ha.whole w (hsub.subset hw)
  case once => exact fun a hm => Nat.le_trans hsub.countP_le (ha.once a hm)
  case fits =>
    intro leaf hm s hs
    rw [← told_insert (h leaf hm)] at hs
    exact ha.fits leaf hm s hs

theorem client_sets_nothing {leaf : Leaf} (hm : leaf ∈ leaves)
    (hv : v.1 = Address.hostVariable ∨ v.1 = Address.portVariable) : ¬ Sets v leaf.path := by
  have hkeys : ∀ n ∈ [Address.hostVariable, Address.portVariable],
      (∀ leaf ∈ leaves, keyOfVariable? n ≠ some leaf.path) ∧
        ∀ a ∈ aliases, ¬ Bears a.1 n := by
    decide +kernel
  obtain ⟨hkey, hnames⟩ := hkeys v.1 (by simpa using hv)
  rintro (hk | ⟨a, ha, -, hb⟩)
  · exact hkey leaf hm hk
  · exact hnames a ha hb

/-! ## The configuration -/

/-- What a file holds, if there is one. -/
def Reads (content : Option String) (file : List (String × Toml.Value)) : Prop :=
  content.elim (some []) Toml.parse? = some file

variable {content content' : Option String} {file' : List (String × Toml.Value)}
  {env' : Environment} {c c' : Config}

instance : Decidable (Reads content file) := inferInstanceAs (Decidable (_ = _))

theorem Reads.distinct (hr : Reads content file) : (Toml.Value.table file).Distinct := by
  cases content with
  | none =>
    cases hr
    exact .table List.nodup_nil fun m hm => by cases hm
  | some s => exact Toml.parse?_distinct hr

/-- What the configuration has for each setting: what is told of it, and else the default. -/
structure Holds (file : List (String × Toml.Value)) (env : Environment) (c : Config) : Prop where
  taken : ∀ leaf ∈ leaves, ∀ s, told file env leaf.path = some s → leaf.read s = .ok (leaf.get c)
  untold : ∀ leaf ∈ leaves, told file env leaf.path = none →
    leaf.get c = leaf.get standard

theorem extract_holds (hr : Reads content file) (ha : Admissible file env) :
    ∃ c, extract content env = .ok c ∧ Holds file env c := by
  have hat (leaf) (hm : leaf ∈ leaves) : (settings file env).at? leaf.path =
      (told file env leaf.path).or (standard.toSetting.at? leaf.path) :=
    at?_settings hr.distinct ha hm
  obtain ⟨c, hc, hread⟩ := ofSetting_leaves (s := settings file env) fun leaf hm => by
    rw [hat leaf hm]
    exact settled_fits ha hm
  refine ⟨c, ?_, ?_, ?_⟩
  · simp only [extract, show content.elim (some []) Toml.parse? = some file from hr, hc]
  · intro leaf hm s ht
    obtain ⟨v, hv, hfit⟩ := hread leaf hm
    rw [hat leaf hm, ht] at hv
    cases hv
    exact hfit
  · intro leaf hm ht
    obtain ⟨v, hv, hfit⟩ := hread leaf hm
    obtain ⟨s, hs, hfit'⟩ := standard_fits leaf hm
    rw [hat leaf hm, ht, Option.none_or, hs] at hv
    cases hv
    exact Except.ok.inj (hfit.symm.trans hfit')

theorem Holds.get_eq (h : Holds file env c) (h' : Holds file' env' c') {leaf : Leaf}
    (hm : leaf ∈ leaves) (he : told file' env' leaf.path = told file env leaf.path) :
    leaf.get c' = leaf.get c := by
  cases ht : told file env leaf.path with
  | some s =>
    exact Except.ok.inj ((h'.taken leaf hm s (he.trans ht)).symm.trans (h.taken leaf hm s ht))
  | none => exact (h'.untold leaf hm (he.trans ht)).trans (h.untold leaf hm ht).symm

theorem load_of_extract (h : extract content env = .ok c) :
    load content env = match c.validate with
      | .error f => .error (.unusable f)
      | .ok () => .ok c := by
  cases hv : c.validate <;> simp [load, h, hv]

/-- How the layers make up a configuration. -/
structure Layered (content : Option String) (file : List (String × Toml.Value)) (env : Environment)
    (c : Config) : Prop where
  /-- Of every setting the layers together say what the highest says that says anything, and the
  lowest are the defaults. -/
  settled : ∀ leaf ∈ leaves, (settings file env).at? leaf.path =
    (told file env leaf.path).or (standard.toSetting.at? leaf.path)
  /-- The configuration has what is told of a setting, and else its default. -/
  holds : Holds file env c
  /-- A variable changes no setting that it does not set. -/
  apart : ∀ pre v post, env = pre ++ v :: post → Admissible file (pre ++ post) →
    ∃ c', extract content (pre ++ post) = .ok c' ∧
      ∀ leaf ∈ leaves, ¬ Sets v leaf.path → leaf.get c' = leaf.get c
  /-- What the file says of a setting changes no other. -/
  apartFiled : ∀ content' file', Reads content' file' → Admissible file' env →
    ∃ c', extract content' env = .ok c' ∧
      ∀ leaf ∈ leaves, filed file' leaf.path = filed file leaf.path → leaf.get c' = leaf.get c
  /-- A variable that sets nothing changes nothing. -/
  unknown : ∀ pre v post, env = pre ++ v :: post → (∀ leaf ∈ leaves, ¬ Sets v leaf.path) →
    extract content (pre ++ post) = .ok c
  /-- The variables of a client are such variables. -/
  client : ∀ pre v post, env = pre ++ v :: post →
    v.1 = Address.hostVariable ∨ v.1 = Address.portVariable → extract content (pre ++ post) = .ok c
  /-- The configuration is loaded if it can be used. -/
  usable : load content env = .ok c ↔ c.validate = .ok ()
  /-- Otherwise its fault is told. -/
  unusable : ∀ f, c.validate = .error f → load content env = .error (.unusable f) ∧
    ∀ name, (LoadError.unusable f).toBrokerError name = .config f.message

/-- A configuration takes every setting from the highest layer that tells of it. -/
theorem layered (hr : Reads content file) (ha : Admissible file env) :
    ∃ c, extract content env = .ok c ∧ Layered content file env c := by
  obtain ⟨c, hc, hholds⟩ := extract_holds hr ha
  have hload := load_of_extract hc
  have hunknown : ∀ pre v post, env = pre ++ v :: post → (∀ leaf ∈ leaves, ¬ Sets v leaf.path) →
      extract content (pre ++ post) = .ok c := by
    rintro pre v post rfl hnone
    obtain ⟨c', hc', hholds'⟩ := extract_holds hr (ha.without hnone)
    rw [hc', ext_leaves fun leaf hm => hholds.get_eq hholds' hm (told_insert (hnone leaf hm)).symm]
  refine ⟨c, hc, ?_⟩
  constructor
  case settled => exact fun leaf hm => at?_settings hr.distinct ha hm
  case holds => exact hholds
  case apart =>
    rintro pre v post rfl ha'
    obtain ⟨c', hc', hholds'⟩ := extract_holds hr ha'
    exact ⟨c', hc', fun leaf hm hset => hholds.get_eq hholds' hm (told_insert hset).symm⟩
  case apartFiled =>
    intro content' file' hr' ha'
    obtain ⟨c', hc', hholds'⟩ := extract_holds hr' ha'
    refine ⟨c', hc', fun leaf hm hfiled => hholds.get_eq hholds' hm ?_⟩
    rw [told, told, hfiled]
  case unknown => exact hunknown
  case client =>
    exact fun pre v post he hv => hunknown pre v post he fun leaf hm => client_sets_nothing hm hv
  case usable =>
    rw [hload]
    cases c.validate <;> simp
  case unusable =>
    intro f hf
    rw [hload, hf]
    exact ⟨rfl, fun _ => rfl⟩

/-- A file, a variable with a name of its own, one that spells out a key, and one for clients. -/
theorem layered_all_layers :
    ∃ c, extract (some "[server]\nport = 6000\nshutdown_grace_ms = 10")
        [("TAI_MUX_PLATFORM_ADAPTER", "static"), ("MODULE_BROKER_SERVER__PORT", "7001"),
          ("MODULE_BROKER_SERVER_PORT", "1")] = .ok c ∧
      Layered (some "[server]\nport = 6000\nshutdown_grace_ms = 10")
        [("server", .table [("port", .int 6000), ("shutdown_grace_ms", .int 10)])]
        [("TAI_MUX_PLATFORM_ADAPTER", "static"), ("MODULE_BROKER_SERVER__PORT", "7001"),
          ("MODULE_BROKER_SERVER_PORT", "1")] c :=
  layered (by decide +kernel) (by decide +kernel)

end Config

end SlotBroker
