import SlotBroker.Proofs.Text.Bytes
import SlotBroker.Proofs.Wire.Field
import SlotBroker.Wire.Schema

/-!
# Messages that were written

What is written of a message is a sequence of fields, a stretch of it for each field of the schema,
and reading takes them in one after another. So it is enough to say of each kind of field what its
stretch turns a message into (`FieldSchema.Carries`): the part of one message becomes the part of
the other. The stretches follow each other in the order of the schema (`Schema.Carries`), and each
field finds its own schema again, since no two have one number. So a message that is built up from
the default values, stretch by stretch, is read back from its bytes (`Schema.Carries.mergeBytes`).

Default values are left out: a field that was written makes a difference, even on its own.
-/

namespace SlotBroker.Wire

variable {σ τ α : Type}

/-! ## The schema of a field -/

namespace Schema

variable {s : Schema σ} {f : FieldSchema σ} {depth : Nat} {fs : List Field}

/-- The fields of a schema are in the order of their numbers, and the numbers have their place in
keys. -/
structure Numbered (s : Schema σ) : Prop where
  ascending : s.Pairwise fun f g => f.number < g.number
  placed : ∀ f ∈ s, 0 < f.number ∧ f.number < 2 ^ 29

theorem find?_number (ha : s.Pairwise fun f g => f.number < g.number) (hf : f ∈ s) :
    s.find? (fun g => g.number == f.number) = some f := by
  induction s with
  | nil => cases hf
  | cons f' s ih =>
    obtain ⟨hlt, ha⟩ := List.pairwise_cons.1 ha
    rcases List.mem_cons.1 hf with rfl | hf
    · simp
    · have hne : f'.number ≠ f.number := Nat.ne_of_lt (hlt f hf)
      rw [List.find?_cons_of_neg (by simpa using hne), ih ha hf]

theorem mergeField_number {g : Field} (hn : s.Numbered) (hf : f ∈ s)
    (hg : g.number = f.number) (x : σ) : s.mergeField depth x g = f.merge depth g.value x := by
  rw [mergeField, hg, find?_number hn.ascending hf]

theorem foldlM_mergeField (hn : s.Numbered) (hf : f ∈ s)
    (hg : ∀ g ∈ fs, g.number = f.number) (x : σ) :
    fs.foldlM (s.mergeField depth) x = fs.foldlM (fun x g => f.merge depth g.value x) x := by
  induction fs generalizing x with
  | nil => rfl
  | cons g fs ih =>
    rw [List.forall_mem_cons] at hg
    rw [List.foldlM_cons, List.foldlM_cons, mergeField_number hn hf hg.1]
    simp only [ih hg.2]

end Schema

variable [Inhabited σ]

/-! ## Parts of a message -/

/-- A part of a message, which has a default value. -/
structure Part (get : σ → α) (set : α → σ → σ) (zero : α) : Prop where
  get_set : ∀ a x, get (set a x) = a
  set_get : ∀ x, set (get x) x = x
  set_set : ∀ a b x, set a (set b x) = set a x
  get_default : get default = zero

theorem Part.ne_default {get : σ → α} {set : α → σ → σ} {zero a : α} (p : Part get set zero)
    (h : a ≠ zero) (x : σ) : set a x ≠ default := by
  intro hs
  apply h
  rw [← p.get_set a x, hs, p.get_default]

theorem Part.set_zero {get : σ → α} {set : α → σ → σ} {zero : α} {x : σ} (p : Part get set zero)
    (h : get x = zero) : set zero x = x := by
  rw [← h, p.set_get]

theorem length_le_flatMap_of_mem {β : Type} {a : α} {as : List α} (h : a ∈ as) (f : α → List β) :
    (f a).length ≤ (as.flatMap f).length := by
  rw [List.flatMap_def]
  exact (List.sublist_flatten_of_mem (List.mem_map_of_mem h)).length_le

theorem length_le_bytes (k : Nat) (bs : List UInt8) :
    bs.length ≤ (Field.bytes ⟨k, .bytes bs⟩).length := by
  simp only [Field.bytes, writeBytes, List.length_append]
  omega

/-! ## One field of a schema -/

namespace FieldSchema

/-- What is written of `m` is some fields that turn `x` into `y`. -/
structure Carries (f : FieldSchema σ) (depth : Nat) (m : σ) (fs : List Field) (x y : σ) :
    Prop where
  write : f.write m = fs.flatMap Field.bytes
  plain : ∀ g ∈ fs, g.Plain
  number : ∀ g ∈ fs, g.number = f.number
  merge : fs.foldlM (fun x g => f.merge depth g.value x) x = some y
  /-- On its own it turns the default values into others. -/
  tells : ∀ g ∈ fs, ∃ d, f.merge depth g.value default = some d ∧ d ≠ default

/-- A field of a message can be written: its number has its place in a key, and its bytes can be
counted. -/
structure Fits (f : FieldSchema σ) (m : σ) : Prop where
  number_pos : 0 < f.number
  number_lt : f.number < 2 ^ 29
  length_lt : (f.write m).length < UInt64.size

/-- What is written of `m`, if it fits, turns `x` into `y`. -/
def Copies (f : FieldSchema σ) (depth : Nat) (m x y : σ) : Prop :=
  f.Fits m → ∃ fs, f.Carries depth m fs x y

variable {f : FieldSchema σ} {number depth : Nat} {m x y : σ} {v : Value}

theorem Carries.omitted (hw : f.write m = []) : f.Carries depth m [] x x where
  write := hw
  plain := by simp
  number := by simp
  merge := rfl
  tells := by simp

theorem Carries.single (hw : f.write m = Field.bytes ⟨f.number, v⟩)
    (hp : Field.Plain ⟨f.number, v⟩) (hm : f.merge depth v x = some y)
    (ht : ∃ d, f.merge depth v default = some d ∧ d ≠ default) :
    f.Carries depth m [⟨f.number, v⟩] x y where
  write := by rw [hw, List.flatMap_cons, List.flatMap_nil, List.append_nil]
  plain := by simpa using hp
  number := by simp
  merge := by simp [hm]
  tells := by simpa using ht

/-- The sign is carried on to 64 bits, and the lower half is the number. -/
theorem lower_signExtended (i : Int32) : i.toInt64.toUInt64.toUInt32.toInt32 = i := by
  have h := congrArg Int32.toBitVec (Int32.toInt32_toInt64 i)
  rw [Int64.toBitVec_toInt32, BitVec.signExtend_eq_setWidth_of_le _ (by decide)] at h
  exact Int32.toBitVec_inj.1 h

/-- A part whose values are written as numbers of 64 bits, no two as the same. -/
theorem copies_bits {get : σ → α} {set : α → σ → σ} {zero : α} (up : α → UInt64)
    (down : UInt64 → α) (hback : ∀ a, down (up a) = a) (hzero : up zero = 0)
    (p : Part get set zero) (hx : get x = zero) :
    (word number (fun m => up (get m)) fun n => set (down n)).Copies depth m x
      (set (get m) x) := by
  rintro ⟨hpos, hlt, -⟩
  by_cases h : up (get m) = 0
  · have hm : get m = zero := by rw [← hback (get m), h, ← hzero, hback]
    rw [hm, p.set_zero hx]
    exact ⟨_, .omitted (if_pos h)⟩
  · have hm : get m ≠ zero := fun hm => h (by rw [hm, hzero])
    have hmerge (x : σ) : some (set (down (up (get m))) x) = some (set (get m) x) := by rw [hback]
    exact ⟨_, .single (v := .number (up (get m))) (if_neg h) (.number hpos hlt) (hmerge x)
      ⟨_, hmerge default, p.ne_default hm _⟩⟩

theorem copies_word {get : σ → UInt64} {set : UInt64 → σ → σ} (p : Part get set 0)
    (hx : get x = 0) : (word number get set).Copies depth m x (set (get m) x) :=
  copies_bits id id (fun _ => rfl) rfl p hx

theorem copies_signed {get : σ → Int64} {set : Int64 → σ → σ} (p : Part get set 0)
    (hx : get x = 0) : (signed number get set).Copies depth m x (set (get m) x) :=
  copies_bits Int64.toUInt64 UInt64.toInt64 Int64.toInt64_toUInt64 rfl p hx

theorem copies_enumeration {get : σ → Int32} {set : Int32 → σ → σ} (p : Part get set 0)
    (hx : get x = 0) : (enumeration number get set).Copies depth m x (set (get m) x) :=
  copies_bits (fun i : Int32 => i.toInt64.toUInt64) (fun n => n.toUInt32.toInt32)
    lower_signExtended rfl p hx

theorem copies_text {get : σ → String} {set : String → σ → σ} (p : Part get set "")
    (hx : get x = "") : (text number get set).Copies depth m x (set (get m) x) := by
  rintro ⟨hpos, hlt, hlen⟩
  by_cases h : (get m).isEmpty
  · rw [String.isEmpty_iff.1 h, p.set_zero hx]
    exact ⟨_, .omitted (if_pos h)⟩
  · have hw : (text number get set).write m =
        Field.bytes ⟨number, .bytes (Text.toBytes (get m))⟩ := if_neg h
    have hread : Text.ofBytes? (Text.toBytes (get m)) = some (get m) :=
      Text.ofBytes?_eq_some_iff.2 rfl
    rw [hw] at hlen
    refine ⟨_, .single hw (.bytes hpos hlt (Nat.lt_of_le_of_lt (length_le_bytes _ _) hlen)) ?_ ?_⟩
    · simp only [text, hread, Option.map_some]
    · refine ⟨set (get m) default, ?_, p.ne_default (mt String.isEmpty_iff.2 h) _⟩
      simp only [text, hread, Option.map_some]

variable [Inhabited τ] {schema : Schema τ}

theorem copies_message {get : σ → Option τ} {set : τ → σ → σ}
    (hget : ∀ t x, get (set t x) = some t) (hd : get default = none) (hx : get x = none)
    (hs : ∀ t, (schema.encode t).length < UInt64.size →
      schema.mergeBytes depth default (schema.encode t) = some t)
    (hy : ((get m).elim x fun t => set t x) = y) :
    (message number schema get set).Copies depth m x y := by
  rintro ⟨hpos, hlt, hlen⟩
  subst hy
  cases h : get m with
  | none => exact ⟨_, .omitted (by simp only [message, h])⟩
  | some t =>
    have hw : (message number schema get set).write m =
        Field.bytes ⟨number, .bytes (schema.encode t)⟩ := by
      simp only [message, h]
      rfl
    rw [hw] at hlen
    have ht := Nat.lt_of_le_of_lt (length_le_bytes _ _) hlen
    refine ⟨_, .single hw (.bytes hpos hlt ht) ?_ ⟨set t default, ?_, ?_⟩⟩
    · simp only [message, hx, Option.getD_none, hs t ht, Option.map_some, Option.elim_some]
    · simp only [message, hd, Option.getD_none, hs t ht, Option.map_some]
    · intro hset
      have hsome := hget t default
      rw [hset, hd] at hsome
      cases hsome

theorem copies_messages {get : σ → List τ} {set : List τ → σ → σ} (p : Part get set [])
    (hx : get x = [])
    (hs : ∀ t, (schema.encode t).length < UInt64.size →
      schema.mergeBytes depth default (schema.encode t) = some t) :
    (messages number schema get set).Copies depth m x (set (get m) x) := by
  rintro ⟨hpos, hlt, hlen⟩
  let field (t : τ) : Field := ⟨number, .bytes (schema.encode t)⟩
  have hw : (messages number schema get set).write m =
      ((get m).map field).flatMap Field.bytes := by
    rw [List.flatMap_map]
    rfl
  have hb : ∀ t ∈ get m, (schema.encode t).length < UInt64.size := by
    intro t ht
    rw [hw, List.flatMap_map] at hlen
    have hle := length_le_bytes number (schema.encode t)
    have hmem := length_le_flatMap_of_mem ht fun t => (field t).bytes
    exact Nat.lt_of_le_of_lt (Nat.le_trans hle hmem) hlen
  have htake (t : τ) (ht : t ∈ get m) (x : σ) :
      (messages number schema get set).merge depth (field t).value x =
        some (set (get x ++ [t]) x) := by
    simp only [messages, field, hs t (hb t ht), Option.map_some]
  -- The messages that have been taken in already stand before those to come.
  have hmerge (ts : List τ) (hts : ∀ t ∈ ts, t ∈ get m) (x : σ) :
      (ts.map field).foldlM (fun x g => (messages number schema get set).merge depth g.value x) x =
        some (set (get x ++ ts) x) := by
    induction ts generalizing x with
    | nil => simp [p.set_get]
    | cons t ts ih =>
      rw [List.forall_mem_cons] at hts
      rw [List.map_cons, List.foldlM_cons, htake t hts.1, Option.bind_eq_bind, Option.bind_some,
        ih hts.2, p.get_set, p.set_set, List.append_assoc, List.singleton_append]
  refine ⟨_, hw, ?_, ?_, ?_, ?_⟩
  · intro g hg
    obtain ⟨t, ht, rfl⟩ := List.mem_map.1 hg
    exact .bytes hpos hlt (hb t ht)
  · intro g hg
    obtain ⟨t, -, rfl⟩ := List.mem_map.1 hg
    rfl
  · rw [hmerge _ (fun _ ht => ht), hx, List.nil_append]
  · intro g hg
    obtain ⟨t, ht, rfl⟩ := List.mem_map.1 hg
    exact ⟨_, htake t ht _, p.ne_default (by simp) _⟩

end FieldSchema

/-! ## All fields of a schema -/

namespace Schema

/-- What is written of `m`, stretch after stretch, turns `x` into `y`. -/
inductive Carries (depth : Nat) (m : σ) : Schema σ → List Field → σ → σ → Prop
  | nil {x} : Carries depth m [] [] x x
  | cons {f s fs gs x y z} (h : f.Carries depth m fs x y) (hs : Carries depth m s gs y z) :
    Carries depth m (f :: s) (fs ++ gs) x z

variable {s s' : Schema σ} {depth : Nat} {m x y : σ} {fs : List Field}

theorem Carries.encode (h : Carries depth m s fs x y) :
    s.encode m = fs.flatMap Field.bytes := by
  induction h with
  | nil => rfl
  | cons hf _ ih => rw [Schema.encode, List.flatMap_cons, hf.write, List.flatMap_append, ← ih]; rfl

theorem Carries.plain (h : Carries depth m s fs x y) : ∀ g ∈ fs, g.Plain := by
  induction h with
  | nil => simp
  | cons hf _ ih => exact List.forall_mem_append.2 ⟨hf.plain, ih⟩

theorem Carries.number (h : Carries depth m s fs x y) : ∀ g ∈ fs, ∃ f ∈ s, g.number = f.number := by
  induction h with
  | nil => simp
  | cons hf _ ih =>
    refine List.forall_mem_append.2 ⟨fun g hg => ⟨_, List.mem_cons_self, hf.number g hg⟩, ?_⟩
    intro g hg
    obtain ⟨f, hf, hn⟩ := ih g hg
    exact ⟨f, List.mem_cons_of_mem _ hf, hn⟩

theorem Carries.pairwise (h : Carries depth m s fs x y)
    (ha : s.Pairwise fun f g => f.number < g.number) :
    fs.Pairwise fun g g' => g.number ≤ g'.number := by
  induction h with
  | nil => exact .nil
  | cons hf hs ih =>
    obtain ⟨hlt, ha⟩ := List.pairwise_cons.1 ha
    refine List.pairwise_append.2 ⟨?_, ih ha, ?_⟩
    · refine List.pairwise_of_forall_mem_list fun g hg g' hg' => ?_
      exact Nat.le_of_eq ((hf.number g hg).trans (hf.number g' hg').symm)
    · intro g hg g' hg'
      obtain ⟨f', hf', hn⟩ := hs.number g' hg'
      rw [hf.number g hg, hn]
      exact Nat.le_of_lt (hlt f' hf')

/-- The fields of a part of a schema are taken in by the whole schema as by that part. -/
theorem Carries.foldlM (h : Carries depth m s' fs x y) (hn : s.Numbered) (hs : s' ⊆ s) :
    fs.foldlM (s.mergeField depth) x = some y := by
  induction h with
  | nil => rfl
  | @cons f s' fs gs x y z hf _ ih =>
    rw [List.cons_subset] at hs
    have hstretch : fs.foldlM (s.mergeField depth) x = some y := by
      rw [foldlM_mergeField hn hs.1 hf.number, hf.merge]
    rw [List.foldlM_append, hstretch, Option.bind_eq_bind, Option.bind_some, ih hs.2]

theorem Carries.tells (h : Carries depth m s' fs x y) (hn : s.Numbered) (hs : s' ⊆ s) :
    ∀ g ∈ fs, ∃ d, s.mergeField depth default g = some d ∧ d ≠ default := by
  induction h with
  | nil => simp
  | cons hf _ ih =>
    rw [List.cons_subset] at hs
    refine List.forall_mem_append.2 ⟨fun g hg => ?_, ih hs.2⟩
    rw [mergeField_number hn hs.1 (hf.number g hg)]
    exact hf.tells g hg

/-- What is written of `m`, if all of it fits, turns `x` into `y`. -/
def Copies (s : Schema σ) (depth : Nat) (m x y : σ) : Prop :=
  (∀ f ∈ s, f.Fits m) → ∃ fs, Carries depth m s fs x y

theorem Copies.nil : Copies [] depth m x x := fun _ => ⟨[], .nil⟩

theorem Copies.cons {f : FieldSchema σ} {z : σ} (h : f.Copies depth m x y)
    (hs : s.Copies depth m y z) : Copies (f :: s) depth m x z := by
  intro hfits
  rw [List.forall_mem_cons] at hfits
  obtain ⟨fs, hf⟩ := h hfits.1
  obtain ⟨gs, hg⟩ := hs hfits.2
  exact ⟨fs ++ gs, .cons hf hg⟩

theorem Copies.carries (h : s.Copies depth m x y) (hn : s.Numbered)
    (hlen : (s.encode m).length < UInt64.size) : ∃ fs, Carries depth m s fs x y := by
  refine h fun f hf => ⟨(hn.placed f hf).1, (hn.placed f hf).2, ?_⟩
  exact Nat.lt_of_le_of_lt (length_le_flatMap_of_mem hf fun f => f.write m) hlen

/-- A message that can be counted is read back from its bytes. -/
theorem Copies.mergeBytes (h : s.Copies depth m default m) (hn : s.Numbered)
    (hlen : (s.encode m).length < UInt64.size) :
    s.mergeBytes (depth + 1) default (s.encode m) = some m := by
  obtain ⟨fs, hc⟩ := h.carries hn hlen
  simp only [Schema.mergeBytes, hc.encode, readFields_flatMap hc.plain,
    hc.foldlM hn (List.Subset.refl s)]

/-- The bytes of a message are fields in the order of their numbers, and what has its default value
is left out: each field that is there makes a difference. -/
theorem Copies.fields (h : s.Copies depth m default m) (hn : s.Numbered)
    (hlen : (s.encode m).length < UInt64.size) (limit : Nat) :
    ∃ fs, readFields limit (s.encode m) = some fs ∧
      fs.Pairwise (fun g g' => g.number ≤ g'.number) ∧
      ∀ g ∈ fs, ∃ d, s.mergeField depth default g = some d ∧ d ≠ default := by
  obtain ⟨fs, hc⟩ := h.carries hn hlen
  refine ⟨fs, ?_, hc.pairwise hn.ascending, hc.tells hn (List.Subset.refl s)⟩
  rw [hc.encode, readFields_flatMap hc.plain]

end Schema

end SlotBroker.Wire
