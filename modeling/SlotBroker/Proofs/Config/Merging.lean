import Mathlib.Data.List.Induction
import SlotBroker.Config.Variables
import SlotBroker.Proofs.Assoc

/-!
# What layers say together of one key

A layer is clear on the way to a key (`Clear`) when there are only groups before it, each with
distinct keys. Merging keeps that so, and at the end of the way the upper layer counts where it says
something, and else the lower one (`at?_merge`). The variables of an environment make such a layer
for every key that none of them cuts short or goes on beyond (`ofEnvironment_layer`).
-/

namespace SlotBroker

namespace Setting

/-- On the way to the end of a path there are only groups with distinct keys. -/
def Clear : List String → Setting → Prop
  | [], _ => True
  | k :: path, .group _ ms =>
    (Assoc.keys ms).Nodup ∧ ∀ s, Assoc.get? k ms = some s → Clear path s
  | _ :: _, _ => False

/-- A setting that is no group. -/
def Single (s : Setting) : Prop := ∀ l ms, s ≠ .group l ms

variable {low high s : Setting} {k : String} {path : List String} {l l' : Layer}
  {ms ms' : List (String × Setting)}

theorem clear_cons (h : Clear (k :: path) s) :
    ∃ l ms, s = .group l ms ∧ (Assoc.keys ms).Nodup ∧
      ∀ s, Assoc.get? k ms = some s → Clear path s := by
  cases s with
  | group l ms => exact ⟨l, ms, rfl, h.1, h.2⟩
  | scalar | list => exact h.elim

theorem at?_cons_group : (Setting.group l ms).at? (k :: path) =
    (Assoc.get? k ms).bind (Setting.at? path) := by
  rw [Setting.at?]
  cases Assoc.get? k ms <;> rfl

theorem at?_cons_eq_some_iff {t : Setting} : s.at? (k :: path) = some t ↔
    ∃ l ms, s = .group l ms ∧ ∃ v, Assoc.get? k ms = some v ∧ v.at? path = some t := by
  cases s with
  | group l ms => simp [at?_cons_group, Option.bind_eq_some_iff]
  | scalar | list => simp [Setting.at?]

/-! ## Merging -/

theorem merge_of_single (h : Single high) : merge low high = high := by
  cases high with
  | scalar | list => simp [merge]
  | group l ms => exact absurd rfl (h l ms)

/-- What two members of a key make together. -/
def mergeAt (low high : Option Setting) : Option Setting :=
  match high, low with
  | some v, some w => some (merge w v)
  | some v, none => some v
  | none, low => low

theorem get?_mergeMembers (h : (Assoc.keys ms').Nodup) :
    Assoc.get? k (mergeMembers ms ms') = mergeAt (Assoc.get? k ms) (Assoc.get? k ms') := by
  induction ms' generalizing ms with
  | nil => simp [mergeMembers, mergeAt]
  | cons m ms' ih =>
    obtain ⟨k', v⟩ := m
    obtain ⟨hk, hms⟩ := List.nodup_cons.1 h
    rw [mergeMembers, ih hms, Assoc.get?_put]
    by_cases he : k' = k
    · subst he
      rw [Assoc.get?_eq_none hk]
      simp only [if_true, Assoc.get?, mergeAt]
      cases Assoc.get? k' ms <;> rfl
    · simp only [he, if_false, Assoc.get?]

theorem nodup_mergeMembers (h : (Assoc.keys ms).Nodup) :
    (Assoc.keys (mergeMembers ms ms')).Nodup := by
  induction ms' generalizing ms with
  | nil => simpa [mergeMembers] using h
  | cons m ms' ih =>
    rw [mergeMembers]
    exact ih (Assoc.nodup_put h)

theorem merge_groups : merge (.group l ms) (.group l' ms') = .group l' (mergeMembers ms ms') := by
  rw [merge]

theorem Clear.merge (hl : Clear path low) (hh : Clear path high) : Clear path (merge low high) := by
  induction path generalizing low high with
  | nil => trivial
  | cons k path ih =>
    obtain ⟨l, ms, rfl, hms, hmem⟩ := clear_cons hl
    obtain ⟨l', ms', rfl, hms', hmem'⟩ := clear_cons hh
    rw [merge_groups]
    refine ⟨nodup_mergeMembers hms, fun s hs => ?_⟩
    rw [get?_mergeMembers hms'] at hs
    cases hv : Assoc.get? k ms' with
    | none =>
      rw [hv] at hs
      exact hmem s hs
    | some v =>
      cases hw : Assoc.get? k ms with
      | none =>
        rw [hv, hw] at hs
        cases hs
        exact hmem' _ hv
      | some w =>
        rw [hv, hw] at hs
        cases hs
        exact ih (hmem _ hw) (hmem' _ hv)

/-- Where the upper layer says nothing, the lower one counts; where both say something and that is
no group, or where only the upper one does, the upper one. -/
theorem at?_merge (hl : Clear path low) (hh : Clear path high)
    (hs : ∀ s, high.at? path = some s → low.at? path = none ∨ Single s) :
    (merge low high).at? path = (high.at? path).or (low.at? path) := by
  induction path generalizing low high with
  | nil =>
    rcases hs high rfl with hn | hs
    · cases hn
    · rw [merge_of_single hs]
      rfl
  | cons k path ih =>
    obtain ⟨l, ms, rfl, -, hmem⟩ := clear_cons hl
    obtain ⟨l', ms', rfl, hms', hmem'⟩ := clear_cons hh
    rw [merge_groups]
    rw [at?_cons_group, at?_cons_group] at hs
    rw [at?_cons_group, at?_cons_group, at?_cons_group, get?_mergeMembers hms']
    cases hv : Assoc.get? k ms' with
    | none => rfl
    | some v =>
      cases hw : Assoc.get? k ms with
      | none => exact (Option.or_none).symm
      | some w =>
        rw [hv, hw] at hs
        exact ih (hmem _ hw) (hmem' _ hv) hs

/-! ## Several layers -/

variable {xs : List Setting}

theorem mergeAll_concat : mergeAll (xs ++ [s]) = merge (mergeAll xs) s := by
  simp [mergeAll]

theorem Clear.mergeAll (h : ∀ x ∈ xs, Clear (k :: path) x) : Clear (k :: path) (mergeAll xs) := by
  induction xs using List.reverseRecOn with
  | nil => exact ⟨List.nodup_nil, fun s hs => by cases hs⟩
  | append_singleton xs x ih =>
    rw [mergeAll_concat]
    exact (ih fun y hy => h y (List.mem_append_left _ hy)).merge (h x (by simp))

/-- Of several layers the last that says something counts, if what it says is no group. -/
theorem at?_mergeAll (hc : ∀ x ∈ xs, Clear (k :: path) x)
    (hs : ∀ s, xs.reverse.findSome? (Setting.at? (k :: path)) = some s → Single s) :
    (mergeAll xs).at? (k :: path) = xs.reverse.findSome? (Setting.at? (k :: path)) := by
  induction xs using List.reverseRecOn with
  | nil => rfl
  | append_singleton xs x ih =>
    have hc' : ∀ y ∈ xs, Clear (k :: path) y := fun y hy => hc y (List.mem_append_left _ hy)
    rw [List.reverse_append, List.reverse_singleton, List.singleton_append,
      List.findSome?_cons] at hs ⊢
    rw [mergeAll_concat, at?_merge (Clear.mergeAll hc') (hc x (by simp))]
    · cases hx : x.at? (k :: path) with
      | some s => rfl
      | none =>
        rw [hx] at hs
        exact (Option.none_or).trans (ih hc' hs)
    · intro s hx
      rw [hx] at hs
      exact .inr (hs s rfl)

/-! ## Settings at the end of a path -/

variable {target : List String} {v : Setting}

/-- A setting at the end of a path that is not cut short by it. -/
theorem clear_nest (h : target <+: path → target = path) : Clear path (nest l v target) := by
  induction path generalizing target with
  | nil => trivial
  | cons k path ih =>
    cases target with
    | nil => cases h List.nil_prefix
    | cons k' target =>
      refine ⟨by simp, fun s hs => ?_⟩
      by_cases he : k' = k
      · subst he
        simp only [Assoc.get?, if_true, Option.some.injEq] at hs
        subst hs
        refine ih fun hp => ?_
        exact (List.cons.inj (h (List.cons_prefix_cons.2 ⟨rfl, hp⟩))).2
      · simp [Assoc.get?, he] at hs

theorem at?_nest_self : (nest l v path).at? path = some v := by
  induction path with
  | nil => rfl
  | cons k path ih => simp [nest, at?_cons_group, Assoc.get?, ih]

/-- A path says nothing of what is neither on its way nor beyond its end. -/
theorem at?_nest_apart (h : ¬ target <+: path) (h' : ¬ path <+: target) :
    (nest l v target).at? path = none := by
  induction path generalizing target with
  | nil => exact absurd List.nil_prefix h'
  | cons k path ih =>
    cases target with
    | nil => exact absurd List.nil_prefix h
    | cons k' target =>
      rw [nest, at?_cons_group]
      by_cases he : k' = k
      · subst he
        simp only [Assoc.get?, if_true, Option.bind_some]
        refine ih (fun hp => h ?_) fun hp => h' ?_
        · exact List.cons_prefix_cons.2 ⟨rfl, hp⟩
        · exact List.cons_prefix_cons.2 ⟨rfl, hp⟩
      · simp [Assoc.get?, he]

/-! ## Variables -/

/-- A path neither ends on the way to another nor goes on beyond it. -/
def Apart (path target : List String) : Prop := target <+: path ∨ path <+: target → target = path

instance : Decidable (Apart path target) := inferInstanceAs (Decidable (_ → _))

variable {xs : List (List String × Setting)}

/-- Several settings at the ends of paths say of a path what the one says that is there. -/
theorem at?_mergeAll_nest (ha : ∀ x ∈ xs, Apart (k :: path) x.1) (hd : (xs.map Prod.fst).Nodup) :
    Clear (k :: path) (mergeAll (xs.map fun x => nest l x.2 x.1)) ∧
      (mergeAll (xs.map fun x => nest l x.2 x.1)).at? (k :: path) =
        (xs.find? fun x => x.1 = k :: path).map Prod.snd := by
  induction xs using List.reverseRecOn with
  | nil => exact ⟨⟨List.nodup_nil, fun s hs => by cases hs⟩, rfl⟩
  | append_singleton xs x ih =>
    rw [List.map_append, List.nodup_append] at hd
    obtain ⟨hc, hat⟩ := ih (fun y hy => ha y (List.mem_append_left _ hy)) hd.1
    have hx : Apart (k :: path) x.1 := ha x (by simp)
    have hcx : Clear (k :: path) (nest l x.2 x.1) := clear_nest fun hp => hx (.inl hp)
    rw [List.map_append, List.map_singleton, mergeAll_concat, List.find?_append]
    refine ⟨hc.merge hcx, ?_⟩
    by_cases he : x.1 = k :: path
    · have hnone : xs.find? (fun y => y.1 = k :: path) = none := by
        refine List.find?_eq_none.2 fun y hy hp => ?_
        refine hd.2.2 _ (List.mem_map_of_mem hy) x.1 (by simp) ?_
        rw [he, of_decide_eq_true hp]
      rw [hnone] at hat ⊢
      rw [at?_merge hc hcx fun _ _ => .inl hat, hat, he, at?_nest_self]
      simp [he]
    · have hself : (nest l x.2 x.1).at? (k :: path) = none :=
        at?_nest_apart (fun hp => he (hx (.inl hp))) fun hp => he (hx (.inr hp))
      rw [at?_merge hc hcx fun s hs => (by rw [hself] at hs; cases hs), hself, hat]
      simp [he]

variable {key? : String → Option (List String)} {env : Environment}

/-- What the variables of an environment set, with the keys that they name. -/
def named (l : Layer) (key? : String → Option (List String)) (env : Environment) :
    List (List String × Setting) :=
  env.filterMap fun v => (key? v.1).map fun target => (target, ofVariable l v.2)

theorem find?_named : ((named l key? env).find? fun x => x.1 = path).map Prod.snd =
    (env.find? fun v => key? v.1 = some path).map fun v => ofVariable l v.2 := by
  induction env with
  | nil => rfl
  | cons v env ih =>
    rw [named] at ih ⊢
    cases hk : key? v.1 with
    | none => simpa [-List.find?_filterMap, hk] using ih
    | some target =>
      by_cases ht : target = path
      · simp [hk, ht]
      · simpa [-List.find?_filterMap, hk, ht] using ih

theorem ofEnvironment_eq :
    ofEnvironment l key? env = mergeAll ((named l key? env).map fun x => nest l x.2 x.1) := by
  simp [ofEnvironment, named, List.map_filterMap, Function.comp_def]

/-- The variables of an environment say of a key what the one says that names it. -/
theorem ofEnvironment_layer
    (ha : ∀ v ∈ env, ∀ target, key? v.1 = some target → Apart (k :: path) target)
    (hd : (env.filterMap fun v => key? v.1).Nodup) :
    Clear (k :: path) (ofEnvironment l key? env) ∧
      (ofEnvironment l key? env).at? (k :: path) =
        (env.find? fun v => key? v.1 = some (k :: path)).map fun v => ofVariable l v.2 := by
  have hnames : (named l key? env).map Prod.fst = env.filterMap fun v => key? v.1 := by
    simp [named, List.map_filterMap, Function.comp_def]
  rw [ofEnvironment_eq, ← find?_named]
  refine at?_mergeAll_nest (fun x hx => ?_) (hnames ▸ hd)
  obtain ⟨v, hv, hx⟩ := List.mem_filterMap.1 hx
  obtain ⟨target, ht, rfl⟩ := Option.map_eq_some_iff.1 hx
  exact ha v hv target ht

end Setting

end SlotBroker
