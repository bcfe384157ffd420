import Mathlib.Data.List.Forall2
import SlotBroker.Proofs.Json.Spelling

/-!
# Wanted values and what a text spells

A reader for values of one kind takes from its input what the input spells, up to the same place,
and gives what that value tells (`Agrees`). For a record this is stated of one part at a time: the
part is told by the member of its key, or by the item at its index if the record came as a list
(`Gives.record`). A known key must not occur twice, so it does not matter that of two members the
last one counts.
-/

namespace SlotBroker.Json

/-- The member of a record with this key, or its item with this index if it came as a list. -/
def place? (key : String) (index : Nat) : Json → Option Json
  | record ms => Assoc.get? key ms
  | list vs => vs[index]?
  | _ => none

namespace Reader

variable {first : Bool} {cs cs' rest : List Char} {c : Char} {j : Json} {α β σ : Type}
  {r : Reader α} {P : Json → α → Prop}

/-- What the reader takes from an input is spelt there, and it gives what is told by that value. -/
def Agrees (r : Reader α) (P : Json → α → Prop) : Prop :=
  ∀ ⦃cs a rest⦄, r cs = .ok (a, rest) → ∃ j, Spells cs j rest ∧ P j a

theorem Agrees.spelled {s : String} {a : α} (hr : Agrees r P) (h : document r s = .ok a) :
    ∃ j, Spelled s j ∧ P j a := by
  obtain ⟨rest, ha, he⟩ := document_eq_ok_iff.1 h
  obtain ⟨j, hj, hp⟩ := hr ha
  exact ⟨j, ⟨rest, hj, he⟩, hp⟩

theorem Agrees.of_spelled {s : String} {a : α} (hr : Agrees r P) (h : document r s = .ok a)
    (hj : Spelled s j) : P j a := by
  obtain ⟨j', hj', hp⟩ := hr.spelled h
  exact hj.unique hj' ▸ hp

theorem unwanted_ne_ok {a : α} : unwanted cs ≠ .ok a := by
  intro h
  unfold unwanted at h
  rcases cs with _ | ⟨c, tail⟩
  · cases h
  simp only at h
  split_ifs at h
  all_goals
    split at h <;> cases h

theorem spells_text {q : List Char} (hc : skipBlanks cs = '"' :: cs')
    (h : readQuoted .plain cs' = .ok (q, rest)) : Spells cs (.text (String.ofList q)) rest := by
  refine spells_of_scalar hc (by decide) (by decide) ?_
  rw [readValue, hc]
  simp [h, Except.map]

theorem spells_null (hc : skipBlanks cs = 'n' :: cs')
    (h : readWord "ull".toList cs' = .ok ((), rest)) : Spells cs .null rest := by
  refine spells_of_scalar hc (by decide) (by decide) ?_
  rw [readValue, hc]
  simp only [if_true, h, Except.map]

theorem spells_number {n : Number} (hc : skipBlanks cs = c :: cs') (hd : c.isDigit = true)
    (h : readNumber true (c :: cs') = .ok (n, rest)) : Spells cs (ofNumber n) rest := by
  have hne : ∀ w : Char, w.isDigit = false → c ≠ w := by
    rintro w hw rfl
    exact absurd hd (by simp [hw])
  refine spells_of_scalar hc (hne _ rfl) (hne _ rfl) ?_
  rw [readValue, hc]
  simp only [hd, if_true, if_neg (hne 'n' rfl), if_neg (hne 't' rfl), if_neg (hne 'f' rfl),
    if_neg (hne '-' rfl), h, Except.map]

theorem text_eq_ok_iff {t : String} :
    text cs = .ok (t, rest) ↔
      ∃ tail q, skipBlanks cs = '"' :: tail ∧ readQuoted .plain tail = .ok (q, rest) ∧
        t = String.ofList q := by
  unfold text
  constructor
  · intro h
    split at h
    · rename_i tail hc
      obtain ⟨⟨q, rest⟩, hq, ht⟩ := map_eq_ok_iff.1 h
      cases ht
      exact ⟨tail, q, hc, hq, rfl⟩
    · exact absurd h unwanted_ne_ok
  · rintro ⟨tail, q, hc, hq, rfl⟩
    rw [hc]
    simp only [hq]
    rfl

theorem agrees_text : Agrees text fun j t => j = .text t := by
  intro cs a rest h
  obtain ⟨tail, q, hc, hq, rfl⟩ := text_eq_ok_iff.1 h
  exact ⟨_, spells_text hc hq, rfl⟩

theorem agrees_natBelow (bound : Nat) : Agrees (natBelow bound) fun j n => j = .int n := by
  intro cs a rest h
  unfold natBelow at h
  split at h
  · rename_i hc
    split_ifs at h with hd
    · split at h
      · rename_i hn
        split_ifs at h
        cases h
        exact ⟨_, spells_number hc hd hn, rfl⟩
      · cases h
      · cases h
    · exact absurd h unwanted_ne_ok
  · cases h

theorem agrees_null : Agrees null fun j _ => j = .null := by
  intro cs a rest h
  unfold null at h
  split at h
  · rename_i hc
    exact ⟨_, spells_null hc h, rfl⟩
  · exact absurd h unwanted_ne_ok

theorem Agrees.imp {Q : Json → α → Prop} (hr : Agrees r P) (h : ∀ j a, P j a → Q j a) :
    Agrees r Q := by
  intro cs a rest ha
  obtain ⟨j, hj, hp⟩ := hr ha
  exact ⟨j, hj, h j a hp⟩

theorem Agrees.map {Q : Json → β → Prop} {f : α → β} (hr : Agrees r P)
    (hf : ∀ j a, P j a → Q j (f a)) : Agrees (map r f) Q := by
  intro cs b rest h
  unfold Reader.map at h
  split at h
  · rename_i ha
    cases h
    obtain ⟨j, hj, hp⟩ := hr ha
    exact ⟨j, hj, hf _ _ hp⟩
  · cases h

theorem filterMap_eq_ok_iff {f : α → Option β} {b : β} :
    filterMap r f cs = .ok (b, rest) ↔ ∃ a, r cs = .ok (a, rest) ∧ f a = some b := by
  unfold filterMap
  rcases r cs with e | ⟨a, rest'⟩
  · simp
  · rcases hf : f a with _ | b'
    · simp [hf]
    · simp [hf, and_comm]

theorem Agrees.filterMap {Q : Json → β → Prop} {f : α → Option β} (hr : Agrees r P)
    (hf : ∀ j a b, P j a → f a = some b → Q j b) : Agrees (filterMap r f) Q := by
  intro cs b rest h
  obtain ⟨a, ha, hb⟩ := filterMap_eq_ok_iff.1 h
  obtain ⟨j, hj, hp⟩ := hr ha
  exact ⟨j, hj, hf _ _ _ hp hb⟩

/-! ### Lists -/

theorem Agrees.listItems (hr : Agrees r P) {n : Nat} {as : List α}
    (h : listItems r n first cs = .ok (as, rest)) :
    ∃ js, SpellsItems first cs js rest ∧ List.Forall₂ P js as := by
  induction n generalizing first cs as with
  | zero => cases h
  | succ n ih =>
    rw [Reader.listItems] at h
    split at h
    · cases h
    · rename_i hn
      obtain ⟨_, hc, rfl⟩ := ok_of_map h
      exact ⟨[], .nil hn hc, .nil⟩
    · rename_i hn
      split at h
      · cases h
      rename_i ha
      obtain ⟨as, has, rfl⟩ := ok_of_map h
      obtain ⟨j, hj, hp⟩ := hr ha
      obtain ⟨js, hjs, hps⟩ := ih has
      exact ⟨j :: js, .cons hn hj hjs, .cons hp hps⟩

theorem Agrees.list (hr : Agrees r P) :
    Agrees (list r) fun j as => ∃ js, j = .list js ∧ List.Forall₂ P js as := by
  intro cs as rest h
  unfold Reader.list at h
  split at h
  · rename_i hc
    obtain ⟨js, hjs, hps⟩ := hr.listItems h
    exact ⟨_, .list hc hjs, js, rfl, hps⟩
  · exact absurd h unwanted_ne_ok

/-! ### Records -/

theorem readClose_eq_ok_iff {bracket : Char} :
    readClose bracket cs = .ok ((), rest) ↔ skipBlanks cs = bracket :: rest := by
  unfold readClose
  rcases skipBlanks cs with _ | ⟨c, tail⟩
  · simp
  · by_cases hc : c = bracket <;> simp [hc]

/-- A list that is closed here has no more items. -/
theorem spellsItems_of_close (h : readClose ']' cs = .ok ((), rest)) :
    SpellsItems first cs [] rest := by
  have hn : nextItem first cs = .ok (false, ']' :: rest) := by
    simp only [nextItem, readClose_eq_ok_iff.1 h]
  exact .nil hn rfl

theorem spellsMembers_of_close {ms : List (String × Json)}
    (h : readClose '}' cs = .ok ((), rest)) : SpellsMembers first ms cs ms rest := by
  have hn : nextKey first cs = .ok (false, '}' :: rest) := by
    simp only [nextKey, readClose_eq_ok_iff.1 h]
  exact .nil hn rfl

/-- A label is a text, or the only key of a record. -/
theorem agrees_label {ofLabel : String → Option α} :
    Agrees (label ofLabel) fun j a =>
      ∃ t, ofLabel t = some a ∧ (j = .text t ∨ j = .record [(t, .null)]) := by
  intro cs a rest h
  unfold label at h
  split at h
  · rename_i tail hc
    obtain ⟨t, ht, ha⟩ := filterMap_eq_ok_iff.1 h
    obtain ⟨_, q, hq, hr, rfl⟩ := text_eq_ok_iff.1 ht
    cases hq
    exact ⟨_, spells_text hc hr, _, ha, .inl rfl⟩
  · rename_i tail hc
    split at h
    · cases h
    rename_i hlabel
    obtain ⟨t, ht, ha⟩ := filterMap_eq_ok_iff.1 hlabel
    obtain ⟨tail', q, hq, hr, rfl⟩ := text_eq_ok_iff.1 ht
    split at h
    · cases h
    rename_i hcolon
    split at h
    · cases h
    rename_i hnull
    obtain ⟨_, hclose, rfl⟩ := ok_of_map h
    obtain ⟨j, hj, rfl⟩ := agrees_null hnull
    have hn : nextKey true tail = .ok (true, tail') := by simp [nextKey, hq]
    refine ⟨_, .record hc (.cons hn (skipQuoted_of_readQuoted hr) hcolon hj ?_), _, ha, .inr rfl⟩
    rw [putMember_of_readQuoted hr]
    exact spellsMembers_of_close hclose
  · cases h
  · cases h

variable {ms : List (Member σ)} {key : String} {index : Nat} {get : σ → Option β}
  {Q : Json → β → Prop} {s s' : σ}

/-- The member of this key gives the part of a record that `get` takes, and no other member changes
that part. -/
structure Gives (ms : List (Member σ)) (key : String) (get : σ → Option β)
    (Q : Json → β → Prop) : Prop where
  here : ∀ m ∈ ms, m.key = key → ∀ s, Agrees (m.read s) fun j s' => ∃ b, get s' = some b ∧ Q j b
  frame : ∀ m ∈ ms, m.key ≠ key → ∀ s, Agrees (m.read s) fun _ s' => get s' = get s

theorem Gives.nil : Gives ([] : List (Member σ)) key get Q :=
  ⟨fun _ hm => absurd hm List.not_mem_nil, fun _ hm => absurd hm List.not_mem_nil⟩

variable {isRead : σ → Bool}

theorem Gives.cons {r : Reader β} {f : σ → β → σ} (hg : Gives ms key get Q) (hr : Agrees r Q)
    (hf : ∀ s b, get (f s b) = some b) :
    Gives (⟨key, isRead, fun s => map r (f s)⟩ :: ms) key get Q where
  here m hm hk s := by
    rcases List.mem_cons.1 hm with rfl | hm
    · exact hr.map fun _ b hq => ⟨b, hf s b, hq⟩
    · exact hg.here m hm hk s
  frame m hm hk s := by
    rcases List.mem_cons.1 hm with rfl | hm
    · exact absurd rfl hk
    · exact hg.frame m hm hk s

theorem Gives.cons_of_ne {k : String} {f : σ → α → σ} (hg : Gives ms key get Q)
    (hr : Agrees r P) (hk : k ≠ key) (hf : ∀ s a, get (f s a) = get s) :
    Gives (⟨k, isRead, fun s => map r (f s)⟩ :: ms) key get Q where
  here m hm hk' s := by
    rcases List.mem_cons.1 hm with rfl | hm
    · exact absurd hk' hk
    · exact hg.here m hm hk' s
  frame m hm hk' s := by
    rcases List.mem_cons.1 hm with rfl | hm
    · exact hr.map fun _ a _ => hf s a
    · exact hg.frame m hm hk' s

/-- The part of a record that was read is told by the last member of its key. -/
def Told (key : String) (get : σ → Option β) (Q : Json → β → Prop) (s : σ)
    (js : List (String × Json)) : Prop :=
  ∀ b, get s = some b → ∃ j, Assoc.get? key js = some j ∧ Q j b

theorem Told.put_of_ne {k : String} {js : List (String × Json)} (hs : Told key get Q s js)
    (hk : k ≠ key) (j : Json) : Told key get Q s (Assoc.put k j js) := by
  unfold Told
  rw [Assoc.get?_put_of_ne hk]
  exact hs

theorem Gives.told_put {m : Member σ} {js : List (String × Json)}
    (hg : Gives ms key get Q) (hs : Told key get Q s js) (hm : m ∈ ms)
    (hr : m.read s cs = .ok (s', rest)) :
    ∃ j, Spells cs j rest ∧ Told key get Q s' (Assoc.put m.key j js) := by
  by_cases hk : m.key = key
  · obtain ⟨j, hj, b, hb, hq⟩ := hg.here m hm hk s hr
    refine ⟨j, hj, fun b' hb' => ?_⟩
    cases hb.symm.trans hb'
    exact ⟨j, by rw [hk, Assoc.get?_put_self], hq⟩
  · obtain ⟨j, hj, hget⟩ := hg.frame m hm hk s hr
    have hs' : Told key get Q s' js := fun b hb => hs b (hget ▸ hb)
    exact ⟨j, hj, hs'.put_of_ne hk j⟩

theorem Gives.recordMembers (hg : Gives ms key get Q) (hmem : key ∈ ms.map Member.key) {n : Nat}
    {js : List (String × Json)} {after : List Char} (hs : Told key get Q s js)
    (h : recordMembers ms n first s cs = .ok (s', rest))
    (hc : readClose '}' rest = .ok ((), after)) :
    ∃ js', SpellsMembers first js cs js' after ∧ Told key get Q s' js' := by
  induction n generalizing first s cs js with
  | zero => cases h
  | succ n ih =>
    rw [Reader.recordMembers] at h
    split at h
    · cases h
    · rename_i hn
      cases h
      exact ⟨js, .nil hn hc, hs⟩
    rename_i hn
    split at h
    · cases h
    rename_i k _ hq
    have hq' := skipQuoted_of_readQuoted hq
    split at h
    -- A known member is read, and its value is put where a look-up finds it.
    · rename_i m hm
      have hk : m.key = String.ofList k := by simpa using List.find?_some hm
      split_ifs at h
      split at h
      · cases h
      rename_i hcolon
      split at h
      · cases h
      rename_i hr
      obtain ⟨j, hj, hs'⟩ := hg.told_put hs (List.mem_of_find?_eq_some hm) hr
      rw [hk, ← putMember_of_readQuoted hq] at hs'
      obtain ⟨js', hjs, htold⟩ := ih hs' h
      exact ⟨js', .cons hn hq' hcolon hj hjs, htold⟩
    -- An unknown one is skipped, and its key is not the one that is looked up.
    · rename_i hm
      have hk : String.ofList k ≠ key := by
        rintro rfl
        obtain ⟨m, hms, hkey⟩ := List.mem_map.1 hmem
        exact List.find?_eq_none.1 hm m hms (by simp [hkey])
      split at h
      · cases h
      rename_i hcolon
      split at h
      · cases h
      rename_i hskip
      obtain ⟨j, hj⟩ := spells_of_skip hskip
      have hs' := hs.put_of_ne hk j
      rw [← putMember_of_readQuoted hq] at hs'
      obtain ⟨js', hjs, htold⟩ := ih hs' h
      exact ⟨js', .cons hn hq' hcolon hj hjs, htold⟩

theorem Gives.tail {m : Member σ} (hg : Gives (m :: ms) key get Q) : Gives ms key get Q where
  here m' hm := hg.here m' (List.mem_cons_of_mem m hm)
  frame m' hm := hg.frame m' (List.mem_cons_of_mem m hm)

theorem Gives.listedMembers (hg : Gives ms key get Q)
    (h : listedMembers ms first s cs = .ok (s', rest)) {after : List Char}
    (hc : readClose ']' rest = .ok ((), after)) :
    ∃ js, SpellsItems first cs js after ∧ ∀ b, get s' = some b → get s = some b ∨
      ∃ (i : Nat) (j : Json), (ms.map Member.key)[i]? = some key ∧ js[i]? = some j ∧ Q j b := by
  induction ms generalizing first s cs with
  | nil =>
    cases h
    exact ⟨[], spellsItems_of_close hc, fun b hb => .inl hb⟩
  | cons m ms ih =>
    rw [Reader.listedMembers] at h
    split at h
    · cases h
    · rename_i hn
      cases h
      exact ⟨[], .nil hn hc, fun b hb => .inl hb⟩
    rename_i hn
    split at h
    · cases h
    rename_i hr
    obtain ⟨js, hjs, hget⟩ := ih hg.tail h
    by_cases hkk : m.key = key
    · obtain ⟨j, hj, b, hb, hq⟩ := hg.here m List.mem_cons_self hkk _ hr
      refine ⟨j :: js, .cons hn hj hjs, fun b' hb' => .inr ?_⟩
      rcases hget b' hb' with hold | ⟨i, j', hkey, hj', hq'⟩
      · cases hb.symm.trans hold
        exact ⟨0, j, congrArg some hkk, rfl, hq⟩
      · exact ⟨i + 1, j', hkey, hj', hq'⟩
    · obtain ⟨j, hj, hb⟩ := hg.frame m List.mem_cons_self hkk _ hr
      refine ⟨j :: js, .cons hn hj hjs, fun b' hb' => ?_⟩
      rcases hget b' hb' with hold | ⟨i, j', hkey, hj', hq'⟩
      · exact .inl (hb ▸ hold)
      · exact .inr ⟨i + 1, j', hkey, hj', hq'⟩

/-- What is told of a part of a record at its place is told of the record. -/
theorem Gives.record (hg : Gives ms key get Q) (index : Nat) (part : α → β) {start : σ}
    {finish : σ → Option α} (hkey : (ms.map Member.key)[index]? = some key)
    (hnodup : (ms.map Member.key).Nodup) (hstart : get start = none)
    (hfinish : ∀ s a, finish s = some a → get s = some (part a))
    (hP : ∀ j a v, j.place? key index = some v → Q v (part a) → P j a) :
    Agrees (record ms start finish) P := by
  intro cs a rest h
  unfold Reader.record at h
  split at h
  · rename_i hc
    split at h
    · cases h
    rename_i s _ hms
    split at h
    · cases h
    rename_i hf
    obtain ⟨_, hclose, rfl⟩ := ok_of_map h
    have hnone : Told key get Q start [] := fun b hb => by simp [hstart] at hb
    obtain ⟨js, hjs, htold⟩ := hg.recordMembers (List.mem_of_getElem? hkey) hnone hms hclose
    obtain ⟨v, hv, hq⟩ := htold _ (hfinish _ _ hf)
    exact ⟨_, .record hc hjs, hP _ _ v hv hq⟩
  · rename_i hc
    split at h
    · cases h
    rename_i s _ hms
    split at h
    · cases h
    rename_i hf
    obtain ⟨_, hclose, rfl⟩ := ok_of_map h
    obtain ⟨js, hjs, hget⟩ := hg.listedMembers hms hclose
    refine ⟨_, .list hc hjs, ?_⟩
    rcases hget _ (hfinish _ _ hf) with hold | ⟨i, j', hi, hj, hq⟩
    · rw [hstart] at hold
      cases hold
    · have hlt := (List.getElem?_eq_some_iff.1 hi).1
      obtain rfl := (List.getElem?_inj hlt hnodup).1 (hi.trans hkey.symm)
      exact hP _ _ j' hj hq
  · exact absurd h unwanted_ne_ok

end Reader

end SlotBroker.Json
