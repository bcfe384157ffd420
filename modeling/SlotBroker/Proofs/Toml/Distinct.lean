import SlotBroker.Proofs.Assoc
import SlotBroker.Toml.Document

/-!
# No key is set twice

While a document is read no table in it gets a key twice (`Items.Distinct`): every way to change the
tables puts a key where there is none, or changes what the key holds. So in the tables of a document
that has been read every key occurs once (`parse?_distinct`).
-/

namespace SlotBroker.Toml

/-- In every table of a value each key occurs once. -/
inductive Value.Distinct : Value → Prop
  | plain {v} (hl : ∀ vs, v ≠ .list vs) (ht : ∀ ms, v ≠ .table ms) : Distinct v
  | list {vs} (h : ∀ v ∈ vs, Distinct v) : Distinct (.list vs)
  | table {ms} (hk : (Assoc.keys ms).Nodup) (h : ∀ m ∈ ms, Distinct m.2) : Distinct (.table ms)

theorem Value.Distinct.of_table {ms : List (String × Value)} (h : (Value.table ms).Distinct) :
    (Assoc.keys ms).Nodup ∧ ∀ m ∈ ms, m.2.Distinct := by
  cases h with
  | plain _ ht => exact absurd rfl (ht ms)
  | table hk h => exact ⟨hk, h⟩

/-- In every table that a key holds each key occurs once. -/
inductive Item.Distinct : Item → Prop
  | value {v} (h : v.Distinct) : Distinct (.value v)
  | table {o items} (hk : (Assoc.keys items).Nodup) (h : ∀ m ∈ items, Distinct m.2) :
      Distinct (.table o items)
  | tables {es} (hk : ∀ t ∈ es, (Assoc.keys t).Nodup) (h : ∀ t ∈ es, ∀ m ∈ t, Distinct m.2) :
      Distinct (.tables es)

/-- In some tables each key occurs once. -/
structure Items.Distinct (t : Items) : Prop where
  keys : (Assoc.keys t).Nodup
  items : ∀ m ∈ t, m.2.Distinct

namespace Items

variable {t t' : Items} {es es' : List Items} {v : Value} {i : Item} {k key : String}
  {path : List String} {o : Origin} {f : Items → Option Items}

theorem distinct_nil : Distinct [] where
  keys := List.nodup_nil
  items m hm := by cases hm

theorem Distinct.put (h : Distinct t) (hi : i.Distinct) : Distinct (Assoc.put k i t) where
  keys := Assoc.nodup_put h.keys
  items m hm := by
    rcases Assoc.mem_put hm with rfl | hm
    · exact hi
    · exact h.items m hm

theorem Distinct.get? (h : Distinct t) (hi : Assoc.get? k t = some i) : i.Distinct :=
  h.items _ (Assoc.mem_of_get? hi)

theorem Distinct.table (h : Distinct t) : (Item.table o t).Distinct := .table h.keys h.items

theorem distinct_of_table (h : (Item.table o t).Distinct) : Distinct t := by
  cases h with
  | table hk h => exact ⟨hk, h⟩

theorem distinct_tables (h : ∀ t ∈ es, Distinct t) : (Item.tables es).Distinct :=
  .tables (fun t ht => (h t ht).keys) fun t ht => (h t ht).items

theorem distinct_of_tables (h : (Item.tables es).Distinct) : ∀ t ∈ es, Distinct t := by
  cases h with
  | tables hk h => exact fun t ht => ⟨hk t ht, h t ht⟩

/-! ## Changes -/

/-- A change of tables that never makes a key occur twice. -/
def Keeps (f : Items → Option Items) : Prop := ∀ t t', Distinct t → f t = some t' → Distinct t'

theorem Keeps.onLast (hf : Keeps f) (h : ∀ t ∈ es, Distinct t) (he : onLast f es = some es') :
    ∀ t ∈ es', Distinct t := by
  unfold Items.onLast at he
  split at he
  · cases he
  · rename_i last hlast
    obtain ⟨t', ht', rfl⟩ := Option.map_eq_some_iff.1 he
    intro t ht
    rcases List.mem_append.1 ht with ht | ht
    · exact h t ((List.dropLast_sublist es).subset ht)
    · rw [List.mem_singleton.1 ht]
      exact hf _ _ (h last (List.mem_of_getLast? hlast)) ht'

theorem keeps_set (hv : v.Distinct) (key : String) (path : List String) :
    Keeps (set v key path) := by
  induction path with
  | nil =>
    intro t t' h he
    simp only [set] at he
    split at he
    · cases he
    · cases he
      exact h.put (.value hv)
  | cons k path ih =>
    intro t t' h he
    simp only [set] at he
    split at he
    · obtain ⟨s, hs, rfl⟩ := Option.map_eq_some_iff.1 he
      exact h.put (ih _ _ distinct_nil hs).table
    · cases he
    · rename_i es hg
      split at he
      · cases he
      · obtain ⟨es', hes, rfl⟩ := Option.map_eq_some_iff.1 he
        exact h.put (distinct_tables (ih.onLast (distinct_of_tables (h.get? hg)) hes))
    · rename_i o s hg
      split at he
      · cases he
      · obtain ⟨s', hs, rfl⟩ := Option.map_eq_some_iff.1 he
        exact h.put (ih _ _ (distinct_of_table (h.get? hg)) hs).table

theorem Keeps.change (hf : Keeps f) (path : List String) : Keeps (change f path) := by
  induction path with
  | nil => exact hf
  | cons k path ih =>
    intro t t' h he
    simp only [Items.change] at he
    split at he
    · obtain ⟨s, hs, rfl⟩ := Option.map_eq_some_iff.1 he
      exact h.put (ih _ _ distinct_nil hs).table
    · cases he
    · rename_i es hg
      obtain ⟨es', hes, rfl⟩ := Option.map_eq_some_iff.1 he
      exact h.put (distinct_tables (ih.onLast (distinct_of_tables (h.get? hg)) hes))
    · rename_i o s hg
      obtain ⟨s', hs, rfl⟩ := Option.map_eq_some_iff.1 he
      exact h.put (ih _ _ (distinct_of_table (h.get? hg)) hs).table

theorem keeps_openTable (key : String) : Keeps (openTable key) := by
  intro t t' h he
  unfold openTable at he
  split at he
  · cases he
    exact h.put distinct_nil.table
  · rename_i s hg
    cases he
    exact h.put (distinct_of_table (h.get? hg)).table
  · cases he

theorem keeps_openElement (key : String) : Keeps (openElement key) := by
  intro t t' h he
  unfold openElement at he
  split at he
  · cases he
    refine h.put (distinct_tables fun t ht => ?_)
    rw [List.mem_singleton.1 ht]
    exact distinct_nil
  · rename_i es hg
    cases he
    refine h.put (distinct_tables fun t ht => ?_)
    rcases List.mem_append.1 ht with ht | ht
    · exact distinct_of_tables (h.get? hg) t ht
    · rw [List.mem_singleton.1 ht]
      exact distinct_nil
  · cases he

end Items

/-! ## What the tables hold in the end -/

theorem toMembers_eq (t : Items) : toMembers t = t.map fun m => (m.1, m.2.toValue) := by
  induction t with
  | nil => rfl
  | cons m t ih => rw [toMembers, ih, List.map_cons]

theorem toElements_eq (es : List Items) :
    toElements es = es.map fun t => .table (toMembers t) := by
  induction es with
  | nil => rfl
  | cons t es ih => rw [toElements, ih, List.map_cons]

theorem keys_toMembers (t : Items) : Assoc.keys (toMembers t) = Assoc.keys t := by
  rw [toMembers_eq, Assoc.keys, List.map_map]
  rfl

theorem Item.Distinct.toValue {i : Item} (h : i.Distinct) : i.toValue.Distinct := by
  induction h with
  | value h => exact h
  | @table o items hk h ih =>
    refine .table ((keys_toMembers items).symm ▸ hk) fun m hm => ?_
    rw [toMembers_eq] at hm
    obtain ⟨m', hm', rfl⟩ := List.mem_map.1 hm
    exact ih m' hm'
  | @tables es hk h ih =>
    refine .list fun v hv => ?_
    rw [toElements_eq] at hv
    obtain ⟨t, ht, rfl⟩ := List.mem_map.1 hv
    refine .table ((keys_toMembers t).symm ▸ hk t ht) fun m hm => ?_
    rw [toMembers_eq] at hm
    obtain ⟨m', hm', rfl⟩ := List.mem_map.1 hm
    exact ih t ht m' hm'

theorem Items.Distinct.toValue {t : Items} (h : t.Distinct) :
    (Value.table (toMembers t)).Distinct :=
  Item.Distinct.toValue (i := .table .header t) h.table

/-! ## Values -/

/-- A value that is no list and no table. -/
def Value.Plain (v : Value) : Prop := (∀ vs, v ≠ .list vs) ∧ ∀ ms, v ≠ .table ms

theorem Value.Plain.distinct {v : Value} (h : v.Plain) : v.Distinct := .plain h.1 h.2

variable {v : Value} {cs rest : List Char}

theorem plain_intOf? {i : Int} (h : intOf? i = some v) : v.Plain := by
  simp only [intOf?] at h
  split at h
  · cases h
    exact ⟨by simp, by simp⟩
  · cases h

theorem plain_readDecimal {negative : Bool} (h : readDecimal negative cs = some (v, rest)) :
    v.Plain := by
  simp only [readDecimal, Option.bind_eq_bind, Option.bind_eq_some_iff] at h
  obtain ⟨⟨whole, r₁⟩, -, ⟨fraction, r₂⟩, -, ⟨exponent, r₃⟩, -, h⟩ := h
  split at h
  · obtain ⟨v', hv', h⟩ := Option.bind_eq_some_iff.1 h
    cases h
    exact plain_intOf? hv'
  · obtain ⟨d, -, h⟩ := Option.bind_eq_some_iff.1 h
    split at h
    · cases h
    · cases h
      exact ⟨by simp, by simp⟩

theorem plain_readInBase {base : Nat} (h : readInBase base cs = some (v, rest)) : v.Plain := by
  simp only [readInBase, Option.bind_eq_bind, Option.bind_eq_some_iff] at h
  obtain ⟨⟨ds, r⟩, -, v', hv', h⟩ := h
  cases h
  exact plain_intOf? hv'

theorem plain_readUnsigned {negative : Bool} (h : readUnsigned negative cs = some (v, rest)) :
    v.Plain := by
  unfold readUnsigned at h
  split at h
  · cases h
    exact ⟨by simp, by simp⟩
  · cases h
    exact ⟨by simp, by simp⟩
  · exact plain_readDecimal h

theorem plain_readNumber (h : readNumber cs = some (v, rest)) : v.Plain := by
  unfold readNumber at h
  split at h
  · exact plain_readUnsigned h
  · exact plain_readUnsigned h
  · exact plain_readInBase h
  · exact plain_readInBase h
  · exact plain_readInBase h
  · exact plain_readUnsigned h

theorem plain_readScalar (h : readScalar cs = some (v, rest)) : v.Plain := by
  unfold readScalar at h
  split at h
  · cases h
  · split at h
    · obtain ⟨p, -, h⟩ := Option.map_eq_some_iff.1 h
      cases h
      exact ⟨by simp, by simp⟩
    · split at h
      · obtain ⟨p, -, h⟩ := Option.map_eq_some_iff.1 h
        cases h
        exact ⟨by simp, by simp⟩
      · split at h
        · obtain ⟨p, -, h⟩ := Option.map_eq_some_iff.1 h
          cases h
          exact ⟨by simp, by simp⟩
        · split at h
          · cases h
            exact ⟨by simp, by simp⟩
          · exact plain_readNumber h

/-- What is read in some steps has no key twice: a value, the items of a list, the members of a
table. -/
structure ReadsDistinct (fuel : Nat) : Prop where
  value : ∀ {depth cs v rest}, readValue fuel depth cs = some (v, rest) → v.Distinct
  items : ∀ {depth cs vs rest}, readItems fuel depth cs = some (vs, rest) → ∀ v ∈ vs, v.Distinct
  members : ∀ {depth t cs t' rest}, Items.Distinct t →
    readMembers fuel depth t cs = some (t', rest) → Items.Distinct t'

variable {fuel : Nat} {depth : Nat} {vs : List Value} {t t' : Items}

theorem ReadsDistinct.value_succ (ih : ReadsDistinct fuel)
    (h : readValue (fuel + 1) depth cs = some (v, rest)) : v.Distinct := by
  simp only [readValue] at h
  split at h
  · split at h
    · cases h
    · obtain ⟨p, hp, h⟩ := Option.map_eq_some_iff.1 h
      cases h
      exact .list (ih.items hp)
  · split at h
    · cases h
    · split at h
      · cases h
        exact Items.distinct_nil.toValue
      · obtain ⟨p, hp, h⟩ := Option.map_eq_some_iff.1 h
        cases h
        exact (ih.members Items.distinct_nil hp).toValue
  · exact (plain_readScalar h).distinct

theorem ReadsDistinct.items_succ (ih : ReadsDistinct fuel)
    (h : readItems (fuel + 1) depth cs = some (vs, rest)) : ∀ v ∈ vs, v.Distinct := by
  simp only [readItems, Option.bind_eq_bind, Option.bind_eq_some_iff] at h
  obtain ⟨cs', -, h⟩ := h
  split at h
  · cases h
    exact fun v hv => by cases hv
  · obtain ⟨⟨v, r⟩, hv, r', -, h⟩ := by
      simpa only [Option.bind_eq_some_iff] using h
    split at h
    · obtain ⟨p, hp, h⟩ := Option.map_eq_some_iff.1 h
      cases h
      exact List.forall_mem_cons.2 ⟨ih.value hv, ih.items hp⟩
    · cases h
      exact List.forall_mem_cons.2 ⟨ih.value hv, fun w hw => by cases hw⟩
    · cases h

theorem ReadsDistinct.members_succ (ih : ReadsDistinct fuel) (ht : t.Distinct)
    (h : readMembers (fuel + 1) depth t cs = some (t', rest)) : Items.Distinct t' := by
  simp only [readMembers, Option.bind_eq_bind, Option.bind_eq_some_iff] at h
  obtain ⟨⟨⟨path, key⟩, r₁⟩, -, r₂, -, ⟨v, r₃⟩, hv, t₁, hset, h⟩ := h
  have ht₁ := Items.keeps_set (ih.value hv) key path _ _ ht hset
  split at h
  · exact ih.members ht₁ h
  · cases h
    exact ht₁
  · cases h

theorem readsDistinct (fuel : Nat) : ReadsDistinct fuel := by
  induction fuel with
  | zero =>
    constructor
    case value =>
      intro depth cs v rest h
      simp [readValue] at h
    case items =>
      intro depth cs vs rest h
      simp [readItems] at h
    case members =>
      intro depth t cs t' rest ht h
      simp [readMembers] at h
  | succ fuel ih => exact ⟨ih.value_succ, ih.items_succ, ih.members_succ⟩

/-! ## Documents -/

variable {d d' : Draft}

theorem readSetting_distinct (hd : d.root.Distinct) (h : readSetting d cs = some (d', rest)) :
    Items.Distinct d'.root := by
  simp only [readSetting, Option.bind_eq_bind, Option.bind_eq_some_iff] at h
  obtain ⟨⟨⟨path, key⟩, r₁⟩, -, r₂, -, ⟨v, r₃⟩, hv, root, hroot, h⟩ := h
  cases h
  exact (Items.keeps_set ((readsDistinct _).value hv) key path).change d.opened _ _ hd hroot

theorem readHeader_distinct (hd : d.root.Distinct) (h : readHeader d cs = some (d', rest)) :
    Items.Distinct d'.root := by
  unfold readHeader at h
  split at h
  · simp only [Option.bind_eq_bind, Option.bind_eq_some_iff] at h
    obtain ⟨⟨⟨path, key⟩, r₁⟩, -, r₂, -, root, hroot, h⟩ := h
    cases h
    exact (Items.keeps_openElement key).change path _ _ hd hroot
  · simp only [Option.bind_eq_bind, Option.bind_eq_some_iff] at h
    obtain ⟨⟨⟨path, key⟩, r₁⟩, -, r₂, -, root, hroot, h⟩ := h
    cases h
    exact (Items.keeps_openTable key).change path _ _ hd hroot
  · cases h

theorem readLine_distinct (hd : d.root.Distinct) (h : readLine d cs = some (d', rest)) :
    Items.Distinct d'.root := by
  unfold readLine at h
  split at h
  · cases h
    exact hd
  · cases h
    exact hd
  · obtain ⟨r, -, h⟩ := Option.map_eq_some_iff.1 h
    cases h
    exact hd
  · obtain ⟨r, -, h⟩ := Option.map_eq_some_iff.1 h
    cases h
    exact hd
  · simp only [Option.bind_eq_bind] at h
    split at h
    · obtain ⟨⟨d₁, r₁⟩, hline, h⟩ := Option.bind_eq_some_iff.1 h
      obtain ⟨r₂, -, h⟩ := Option.bind_eq_some_iff.1 h
      cases h
      exact readHeader_distinct hd hline
    · obtain ⟨⟨d₁, r₁⟩, hline, h⟩ := Option.bind_eq_some_iff.1 h
      obtain ⟨r₂, -, h⟩ := Option.bind_eq_some_iff.1 h
      cases h
      exact readSetting_distinct hd hline

theorem readLines_distinct {fuel : Nat} (hd : d.root.Distinct)
    (h : readLines fuel d cs = some d') : Items.Distinct d'.root := by
  induction fuel generalizing d cs with
  | zero =>
    cases cs with
    | nil =>
      cases h
      exact hd
    | cons c cs => cases h
  | succ fuel ih =>
    cases cs with
    | nil =>
      cases h
      exact hd
    | cons c cs =>
      simp only [readLines] at h
      split at h
      · cases h
      · rename_i d₁ r hline
        exact ih (readLine_distinct hd hline) h

/-- In every table of a document each key occurs once. -/
theorem parse?_distinct {s : String} {file : List (String × Value)} (h : parse? s = some file) :
    (Value.table file).Distinct := by
  obtain ⟨d, hd, rfl⟩ := Option.map_eq_some_iff.1 h
  exact (readLines_distinct Items.distinct_nil hd).toValue

end SlotBroker.Toml
