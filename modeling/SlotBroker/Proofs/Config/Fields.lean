import SlotBroker.Config.Load
import SlotBroker.Proofs.Config.Merging

/-!
# A configuration, field by field

A group is read one field after another, and no field changes what another has read. So where every
field finds a setting that fits, the group is read, and each field holds what its own setting says
(`readGrouped_fields`). This goes for each of the five sections and for the sections of the whole
configuration, and hence for all thirteen settings at the ends of their paths
(`Config.ofSetting_leaves`).
-/

namespace SlotBroker

open SettingReader (readGrouped part)

namespace SettingReader

/-- A setting that the reader takes. -/
def Fits {α : Type} (r : SettingReader α) (s : Setting) : Prop := ∃ a, r s = .ok a

instance {α : Type} (r : SettingReader α) (s : Setting) : Decidable (r.Fits s) :=
  match h : r s with
  | .ok a => isTrue ⟨a, h⟩
  | .error _ => isFalse fun ⟨_, ha⟩ => by cases h.symm.trans ha

theorem natBelow_unsigned {bound n : Nat} (h : n < bound) (w : Wanted) (l : Layer) :
    natBelow bound w (.scalar l (.unsigned n)) = .ok n := by
  have hn : (0 : Int) ≤ n ∧ (n : Int) < bound := ⟨Int.natCast_nonneg n, Int.ofNat_lt.2 h⟩
  simp only [natBelow, if_pos hn, Int.toNat_natCast]

theorem word64_toNat (n : UInt64) (l : Layer) :
    word64 (.scalar l (.unsigned n.toNat)) = .ok n := by
  rw [word64, natBelow_unsigned n.toNat_lt_size, Except.map, UInt64.ofNat_toNat]

theorem word16_toNat (n : UInt16) (l : Layer) :
    word16 (.scalar l (.unsigned n.toNat)) = .ok n := by
  rw [word16, natBelow_unsigned n.toNat_lt_size, Except.map, UInt16.ofNat_toNat]

theorem adapter_label (a : Adapter) : adapter (.scalar .standard (.text a.label)) = .ok a := by
  cases a <;> rfl

/-- No group fits. -/
def NoGroup {α : Type} (r : SettingReader α) : Prop := ∀ l ms a, r (.group l ms) ≠ .ok a

theorem noGroup_word64 : NoGroup word64 := fun _ _ _ h => by cases h

theorem noGroup_word16 : NoGroup word16 := fun _ _ _ h => by cases h

theorem noGroup_truth : NoGroup truth := fun _ _ _ h => by cases h

theorem noGroup_textFor (w : Wanted) : NoGroup (textFor w) := fun _ _ _ h => by cases h

theorem noGroup_ip : NoGroup ip := fun _ _ _ h => by cases h

theorem noGroup_adapter : NoGroup adapter := by
  intro l ms a h
  simp only [adapter] at h
  split at h
  · cases h
  · split at h <;> cases h

end SettingReader

/-- A field of a value, with the key and the reader of the setting that it is taken from. -/
structure Field (σ : Type) where
  {α : Type}
  key : String
  read : SettingReader α
  get : σ → α
  set : α → σ → σ
  get_set : ∀ a c, get (set a c) = a

namespace Field

variable {σ : Type} {f g : Field σ} {fs : List (Field σ)} {ms : List (String × Setting)}

def toPart (f : Field σ) : SettingReader.Part σ := part f.key f.read f.set

/-- Setting the second field does not change the first. -/
def Unmoved (f g : Field σ) : Prop := ∀ a c, f.get (g.set a c) = f.get c

theorem readGrouped_cons {s : Setting} {a : f.α} {ps : List (SettingReader.Part σ)} {c : σ}
    (hg : Assoc.get? f.key ms = some s) (hr : f.read s = .ok a) :
    readGrouped ms (f.toPart :: ps) c = readGrouped ms ps (f.set a c) := by
  simp [readGrouped, toPart, part, hg, hr]

/-- Where each field finds a setting that fits, all are read, each from its own setting, and nothing
else is changed. -/
theorem readGrouped_fields (hi : fs.Pairwise Unmoved)
    (hr : ∀ f ∈ fs, ∃ s a, Assoc.get? f.key ms = some s ∧ f.read s = .ok a) (c : σ) :
    ∃ c', readGrouped ms (fs.map toPart) c = .ok c' ∧
      (∀ f ∈ fs, ∃ s, Assoc.get? f.key ms = some s ∧ f.read s = .ok (f.get c')) ∧
      ∀ g : Field σ, (∀ f ∈ fs, g.Unmoved f) → g.get c' = g.get c := by
  induction fs generalizing c with
  | nil => exact ⟨c, rfl, by simp, fun _ _ => rfl⟩
  | cons f fs ih =>
    obtain ⟨hf, hfs⟩ := List.pairwise_cons.1 hi
    obtain ⟨s, a, hs, ha⟩ := hr f (by simp)
    obtain ⟨c', hc, hread, hframe⟩ :=
      ih hfs (fun g hg => hr g (List.mem_cons_of_mem _ hg)) (f.set a c)
    refine ⟨c', ?_, fun g hg => ?_, fun g hg => ?_⟩
    · rw [List.map_cons, readGrouped_cons hs ha, hc]
    · rcases List.mem_cons.1 hg with rfl | hg
      · have hget : g.get c' = a := (hframe g hf).trans (g.get_set a c)
        exact ⟨s, hs, hget ▸ ha⟩
      · exact hread g hg
    · have hgf : g.get (f.set a c) = g.get c := hg f (by simp) a c
      exact (hframe g fun f' hf' => hg f' (List.mem_cons_of_mem _ hf')).trans hgf

end Field

/-! ## Sections -/

namespace PlatformConfig

def fields : List (Field PlatformConfig) :=
  [⟨"adapter", SettingReader.adapter, adapter, fun a c => { c with adapter := a }, fun _ _ => rfl⟩,
    ⟨"probe_path", SettingReader.textFor .path, probePath,
      fun t c => { c with probePath := t }, fun _ _ => rfl⟩,
    ⟨"probe_timeout_ms", SettingReader.word64, probeTimeoutMs,
      fun n c => { c with probeTimeoutMs := n }, fun _ _ => rfl⟩,
    ⟨"static_config", SettingReader.textFor .path, staticConfig,
      fun t c => { c with staticConfig := t }, fun _ _ => rfl⟩]

end PlatformConfig

namespace Policy

def fields : List (Field Policy) :=
  [⟨"allow_multiple_sessions", SettingReader.truth, allowMultipleSessions,
      fun b p => { p with allowMultipleSessions := b }, fun _ _ => rfl⟩,
    ⟨"require_fresh_listing", SettingReader.truth, requireFreshListing,
      fun b p => { p with requireFreshListing := b }, fun _ _ => rfl⟩]

end Policy

namespace BackendsConfig

def fields : List (Field BackendsConfig) :=
  [⟨"attach_latency_ms", SettingReader.word64, attachLatencyMs,
      fun n c => { c with attachLatencyMs := n }, fun _ _ => rfl⟩,
    ⟨"simulate_unknown", SettingReader.truth, simulateUnknown,
      fun b c => { c with simulateUnknown := b }, fun _ _ => rfl⟩]

end BackendsConfig

namespace ServerConfig

def fields : List (Field ServerConfig) :=
  [⟨"bind_address", SettingReader.ip, bindAddress,
      fun ip c => { c with bindAddress := ip }, fun _ _ => rfl⟩,
    ⟨"port", SettingReader.word16, port, fun n c => { c with port := n }, fun _ _ => rfl⟩,
    ⟨"shutdown_grace_ms", SettingReader.word64, shutdownGraceMs,
      fun n c => { c with shutdownGraceMs := n }, fun _ _ => rfl⟩]

end ServerConfig

namespace LoggingConfig

def fields : List (Field LoggingConfig) :=
  [⟨"format", SettingReader.textFor .text, format,
      fun t c => { c with format := t }, fun _ _ => rfl⟩,
    ⟨"level", SettingReader.textFor .text, level,
      fun t c => { c with level := t }, fun _ _ => rfl⟩]

end LoggingConfig

namespace Config

/-- A section of the configuration: a field of its own, and the fields that its group holds. -/
structure Section where
  field : Field Config
  fields : List (Field field.α)
  standard : field.α
  filled : fields ≠ []
  unmoved : fields.Pairwise Field.Unmoved
  read_group : ∀ l ms, field.read (.group l ms) = readGrouped ms (fields.map Field.toPart) standard

namespace Section

def backends : Section where
  field := ⟨"backends", BackendsConfig.ofSetting, Config.backends,
    fun b c => { c with backends := b }, fun _ _ => rfl⟩
  fields := BackendsConfig.fields
  standard := .standard
  filled := by simp [BackendsConfig.fields]
  unmoved := by simp [BackendsConfig.fields, Field.Unmoved]
  read_group _ _ := rfl

def logging : Section where
  field := ⟨"logging", LoggingConfig.ofSetting, Config.logging,
    fun l c => { c with logging := l }, fun _ _ => rfl⟩
  fields := LoggingConfig.fields
  standard := .standard
  filled := by simp [LoggingConfig.fields]
  unmoved := by simp [LoggingConfig.fields, Field.Unmoved]
  read_group _ _ := rfl

def platform : Section where
  field := ⟨"platform", PlatformConfig.ofSetting, Config.platform,
    fun p c => { c with platform := p }, fun _ _ => rfl⟩
  fields := PlatformConfig.fields
  standard := .standard
  filled := by simp [PlatformConfig.fields]
  unmoved := by simp [PlatformConfig.fields, Field.Unmoved]
  read_group _ _ := rfl

def registry : Section where
  field := ⟨"registry", Policy.ofSetting, Config.registry,
    fun p c => { c with registry := p }, fun _ _ => rfl⟩
  fields := Policy.fields
  standard := .strict
  filled := by simp [Policy.fields]
  unmoved := by simp [Policy.fields, Field.Unmoved]
  read_group _ _ := rfl

def server : Section where
  field := ⟨"server", ServerConfig.ofSetting, Config.server,
    fun s c => { c with server := s }, fun _ _ => rfl⟩
  fields := ServerConfig.fields
  standard := .standard
  filled := by simp [ServerConfig.fields]
  unmoved := by simp [ServerConfig.fields, Field.Unmoved]
  read_group _ _ := rfl

def all : List Section := [backends, logging, platform, registry, server]

theorem unmoved_all : (all.map field).Pairwise Field.Unmoved := by
  simp [all, backends, logging, platform, registry, server, Field.Unmoved]

theorem ofSetting_group (l : Layer) (ms : List (String × Setting)) :
    Config.ofSetting (.group l ms) =
      readGrouped ms ((all.map field).map Field.toPart) .standard :=
  rfl

end Section

/-- A setting that is no section: its section and its key in there, and how it is read. -/
structure Leaf where
  {α : Type}
  part : String
  key : String
  read : SettingReader α
  get : Config → α

def Leaf.path (leaf : Leaf) : List String := [leaf.part, leaf.key]

def Section.leaf (S : Section) (f : Field S.field.α) : Leaf :=
  ⟨S.field.key, f.key, f.read, fun c => f.get (S.field.get c)⟩

/-- All settings of a configuration. -/
def leaves : List Leaf := Section.all.flatMap fun S => S.fields.map S.leaf

theorem leaves_eq : leaves =
    [⟨"backends", "attach_latency_ms", SettingReader.word64, fun c => c.backends.attachLatencyMs⟩,
      ⟨"backends", "simulate_unknown", SettingReader.truth, fun c => c.backends.simulateUnknown⟩,
      ⟨"logging", "format", SettingReader.textFor .text, fun c => c.logging.format⟩,
      ⟨"logging", "level", SettingReader.textFor .text, fun c => c.logging.level⟩,
      ⟨"platform", "adapter", SettingReader.adapter, fun c => c.platform.adapter⟩,
      ⟨"platform", "probe_path", SettingReader.textFor .path, fun c => c.platform.probePath⟩,
      ⟨"platform", "probe_timeout_ms", SettingReader.word64, fun c => c.platform.probeTimeoutMs⟩,
      ⟨"platform", "static_config", SettingReader.textFor .path, fun c => c.platform.staticConfig⟩,
      ⟨"registry", "allow_multiple_sessions", SettingReader.truth,
        fun c => c.registry.allowMultipleSessions⟩,
      ⟨"registry", "require_fresh_listing", SettingReader.truth,
        fun c => c.registry.requireFreshListing⟩,
      ⟨"server", "bind_address", SettingReader.ip, fun c => c.server.bindAddress⟩,
      ⟨"server", "port", SettingReader.word16, fun c => c.server.port⟩,
      ⟨"server", "shutdown_grace_ms", SettingReader.word64, fun c => c.server.shutdownGraceMs⟩] :=
  rfl

/-! ## Reading all settings -/

namespace Section

variable {S : Section} {l : Layer} {ms : List (String × Setting)}

/-- A section is read where each of its settings is there and fits. -/
theorem read_fields (hr : ∀ f ∈ S.fields, ∃ s a, Assoc.get? f.key ms = some s ∧ f.read s = .ok a) :
    ∃ c, S.field.read (.group l ms) = .ok c ∧
      ∀ f ∈ S.fields, ∃ s, Assoc.get? f.key ms = some s ∧ f.read s = .ok (f.get c) := by
  obtain ⟨c, hc, hread, -⟩ := Field.readGrouped_fields S.unmoved hr S.standard
  exact ⟨c, (S.read_group l ms).trans hc, hread⟩

end Section

variable {s : Setting}

theorem mem_leaves {leaf : Leaf} :
    leaf ∈ leaves ↔ ∃ S ∈ Section.all, ∃ f ∈ S.fields, S.leaf f = leaf := by
  simp [leaves]

/-- What is at the end of the path of a setting is in the group of its section. -/
theorem at?_leaf {leaf : Leaf} {v : Setting} :
    s.at? leaf.path = some v ↔
      ∃ l ms, s = .group l ms ∧ ∃ l' ms', Assoc.get? leaf.part ms = some (.group l' ms') ∧
        Assoc.get? leaf.key ms' = some v := by
  simp only [Leaf.path, Setting.at?_cons_eq_some_iff, Setting.at?, Option.some.injEq,
    exists_eq_right]
  constructor
  · rintro ⟨l, ms, rfl, t, ht, l', ms', rfl, hv⟩
    exact ⟨l, ms, rfl, l', ms', ht, hv⟩
  · rintro ⟨l, ms, rfl, l', ms', ht, hv⟩
    exact ⟨l, ms, rfl, _, ht, l', ms', rfl, hv⟩

/-- Where each setting of a section is there and fits, the section is a group that can be read. -/
theorem Section.read_leaves {S : Section} (hS : S ∈ Section.all)
    (h : ∀ leaf ∈ leaves, ∃ v, s.at? leaf.path = some v ∧ leaf.read.Fits v) :
    ∃ l ms, s = .group l ms ∧ ∃ l' ms' c, Assoc.get? S.field.key ms = some (.group l' ms') ∧
      S.field.read (.group l' ms') = .ok c ∧
        ∀ f ∈ S.fields, ∃ v, Assoc.get? f.key ms' = some v ∧ f.read v = .ok (f.get c) := by
  have hat (f) (hf : f ∈ S.fields) : ∃ l ms, s = .group l ms ∧
      ∃ l' ms', Assoc.get? S.field.key ms = some (.group l' ms') ∧
        ∃ v a, Assoc.get? f.key ms' = some v ∧ f.read v = .ok a := by
    obtain ⟨v, hv, a, ha⟩ := h _ (mem_leaves.2 ⟨S, hS, f, hf, rfl⟩)
    obtain ⟨l, ms, hs, l', ms', hg, hv⟩ := at?_leaf.1 hv
    exact ⟨l, ms, hs, l', ms', hg, v, a, hv, ha⟩
  obtain ⟨f, hf⟩ := List.exists_mem_of_ne_nil _ S.filled
  obtain ⟨l, ms, rfl, l', ms', hg, -⟩ := hat f hf
  -- the group is the same for all fields
  have hr (f) (hf : f ∈ S.fields) : ∃ v a, Assoc.get? f.key ms' = some v ∧ f.read v = .ok a := by
    obtain ⟨_, _, hs, _, _, hg', hva⟩ := hat f hf
    cases hs
    cases hg.symm.trans hg'
    exact hva
  obtain ⟨c, hc, hread⟩ := S.read_fields (l := l') hr
  exact ⟨l, ms, rfl, l', ms', c, hg, hc, hread⟩

/-- A configuration is read where each of its settings is there and fits, and it holds what they
say. -/
theorem ofSetting_leaves
    (h : ∀ leaf ∈ leaves, ∃ v, s.at? leaf.path = some v ∧ leaf.read.Fits v) :
    ∃ c, ofSetting s = .ok c ∧
      ∀ leaf ∈ leaves, ∃ v, s.at? leaf.path = some v ∧ leaf.read v = .ok (leaf.get c) := by
  have hsec (S) (hS : S ∈ Section.all) := Section.read_leaves hS h
  obtain ⟨l, ms, rfl, -⟩ := hsec .backends (by simp [Section.all])
  have hr : ∀ F ∈ Section.all.map Section.field,
      ∃ v a, Assoc.get? F.key ms = some v ∧ F.read v = .ok a := by
    refine List.forall_mem_map.2 fun S hS => ?_
    obtain ⟨_, _, hs, l', ms', c, hg, hc, -⟩ := hsec S hS
    cases hs
    exact ⟨_, c, hg, hc⟩
  obtain ⟨c, hc, hread, -⟩ := Field.readGrouped_fields Section.unmoved_all hr .standard
  refine ⟨c, (Section.ofSetting_group l ms).trans hc, fun leaf hleaf => ?_⟩
  obtain ⟨S, hS, f, hf, rfl⟩ := mem_leaves.1 hleaf
  obtain ⟨v, hv, hcv⟩ := hread S.field (List.mem_map_of_mem hS)
  obtain ⟨_, _, hs, l', ms', c', hg, hc', hfields⟩ := hsec S hS
  cases hs
  -- what the field of the section holds is what was read from its group
  cases hg.symm.trans hv
  cases hc'.symm.trans hcv
  obtain ⟨t, ht, hft⟩ := hfields f hf
  exact ⟨t, at?_leaf.2 ⟨l, ms, rfl, l', ms', hg, ht⟩, hft⟩

/-- A configuration is all of its settings. -/
theorem ext_leaves {c c' : Config} (h : ∀ leaf ∈ leaves, leaf.get c = leaf.get c') : c = c' := by
  simp [leaves_eq] at h
  obtain ⟨⟨⟩, ⟨⟩, ⟨⟩, ⟨⟩, ⟨⟩⟩ := c
  obtain ⟨⟨⟩, ⟨⟩, ⟨⟩, ⟨⟩, ⟨⟩⟩ := c'
  simp_all

theorem noGroup_leaves : ∀ leaf ∈ leaves, leaf.read.NoGroup := by
  simp [leaves_eq, SettingReader.noGroup_word64, SettingReader.noGroup_word16,
    SettingReader.noGroup_truth, SettingReader.noGroup_textFor, SettingReader.noGroup_ip,
    SettingReader.noGroup_adapter]

/-! ## Settings that a configuration describes -/

/-- A configuration as settings is read back, if its address is. -/
theorem toSetting_fits (c : Config)
    (hip : Net.Ip.parse? c.server.bindAddress.render = some c.server.bindAddress) :
    ∀ leaf ∈ leaves, ∃ s, c.toSetting.at? leaf.path = some s ∧ leaf.read s = .ok (leaf.get c) := by
  have hipOk : SettingReader.ip (.scalar .standard (.text c.server.bindAddress.render)) =
      .ok c.server.bindAddress := by
    simp [SettingReader.ip, SettingReader.textFor, hip]
  simp [leaves_eq, Leaf.path, toSetting, Setting.at?_cons_group, Assoc.get?, Setting.at?, hipOk,
    SettingReader.word64_toNat, SettingReader.word16_toNat, SettingReader.adapter_label,
    SettingReader.truth, SettingReader.textFor]

theorem standard_fits : ∀ leaf ∈ leaves, ∃ s,
    standard.toSetting.at? leaf.path = some s ∧ leaf.read s = .ok (leaf.get standard) :=
  toSetting_fits standard (by decide +kernel)

end Config

end SlotBroker
