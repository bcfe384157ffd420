import SlotBroker.Proofs.Json.Members

/-!
# What a text spells

`Spells` says without a reader which JSON value stands at the front of an input, and where it ends.
A value may be nested to any depth there, and it may hold what no reader keeps: a number that is too
large is as good as null, a text whose surrogates are not paired is so too, and under a key of that
kind a member is never looked for.

An input spells one value at most (`Spells.unique`). It spells what can be read from its front
(`spells_of_read`), and whatever can be skipped spells something (`spells_of_skip`).
-/

namespace SlotBroker.Json.Reader

/-- The value of a scalar. One that cannot be kept is as good as null. -/
def scalar (cs : List Char) : Json :=
  match readValue 1 0 cs with
  | .ok (j, _) => j
  | .error _ => .null

/-- Put a member under the key that is quoted here, if the key can be kept. -/
def putMember (cs : List Char) (j : Json) (ms : List (String × Json)) : List (String × Json) :=
  match readQuoted .plain cs with
  | .ok (k, _) => Assoc.put (String.ofList k) j ms
  | .error _ => ms

mutual

/-- A value stands at the front of the input, before the rest. -/
inductive Spells : List Char → Json → List Char → Prop
  | scalar {cs c tail rest} (hc : skipBlanks cs = c :: tail) (hl : c ≠ '[') (hr : c ≠ '{')
      (h : skipValue 1 cs = .ok ((), rest)) : Spells cs (scalar cs) rest
  | list {cs tail js rest} (hc : skipBlanks cs = '[' :: tail)
      (h : SpellsItems true tail js rest) : Spells cs (.list js) rest
  | record {cs tail ms rest} (hc : skipBlanks cs = '{' :: tail)
      (h : SpellsMembers true [] tail ms rest) : Spells cs (.record ms) rest

/-- The items of a list stand there up to its bracket. -/
inductive SpellsItems : Bool → List Char → List Json → List Char → Prop
  | nil {first cs tail rest} (hn : nextItem first cs = .ok (false, tail))
      (hc : readClose ']' tail = .ok ((), rest)) : SpellsItems first cs [] rest
  | cons {first cs r₁ r₂ j js rest} (hn : nextItem first cs = .ok (true, r₁))
      (hv : Spells r₁ j r₂) (hs : SpellsItems false r₂ js rest) :
      SpellsItems first cs (j :: js) rest

/-- The members of a record stand there up to its brace, after some that came before. -/
inductive SpellsMembers : Bool → List (String × Json) → List Char → List (String × Json) →
    List Char → Prop
  | nil {first ms cs tail rest} (hn : nextKey first cs = .ok (false, tail))
      (hc : readClose '}' tail = .ok ((), rest)) : SpellsMembers first ms cs ms rest
  | cons {first ms cs r₁ r₂ r₃ r₄ j ms' rest} (hn : nextKey first cs = .ok (true, r₁))
      (hk : skipQuoted .plain r₁ = .ok ((), r₂)) (hcolon : readColon r₂ = .ok ((), r₃))
      (hv : Spells r₃ j r₄) (hs : SpellsMembers false (putMember r₁ j ms) r₄ ms' rest) :
      SpellsMembers first ms cs ms' rest

end

variable {fuel depth : Nat} {first : Bool} {cs rest tail : List Char} {c : Char} {j : Json}

/-! ## Skipping and reading -/

/-- Where skipping stands when reading stands here. -/
def TextState.skipped : TextState → SkipState
  | plain => .plain
  | escape => .escape
  | hex left _ _ => .hex left
  | wantEscape _ => .plain
  | wantUnit _ => .escape

theorem prepend_eq_ok_iff {c : Char} {t : List Char} {r : Except Fault (List Char × List Char)} :
    prepend c r = .ok (t, rest) ↔ ∃ t', t = c :: t' ∧ r = .ok (t', rest) := by
  unfold prepend
  rcases r with e | ⟨t', rest'⟩
  · simp
  · simp only [Except.ok.injEq, Prod.mk.injEq]
    constructor
    · rintro ⟨rfl, rfl⟩
      exact ⟨t', rfl, rfl, rfl⟩
    · rintro ⟨_, rfl, rfl, rfl⟩
      exact ⟨rfl, rfl⟩

theorem skipQuoted_of_readQuoted {st : TextState} {t : List Char}
    (h : readQuoted st cs = .ok (t, rest)) : skipQuoted st.skipped cs = .ok ((), rest) := by
  induction cs generalizing st t with
  | nil => cases st <;> cases h
  | cons c cs ih =>
    cases st with
    | plain =>
      rw [readQuoted] at h
      rw [TextState.skipped, skipQuoted]
      split_ifs at h ⊢
      · cases h
        rfl
      · exact ih h
      · obtain ⟨t', -, h⟩ := prepend_eq_ok_iff.1 h
        exact ih h
    | escape =>
      rw [readQuoted] at h
      rw [TextState.skipped, skipQuoted]
      split at h
      · rename_i d hd
        obtain ⟨t', -, h⟩ := prepend_eq_ok_iff.1 h
        rw [if_pos (by rw [hd]; rfl)]
        exact ih h
      · rename_i hd
        rw [if_neg (by rw [hd]; exact Bool.false_ne_true)]
        split_ifs at h ⊢
        exact ih h
    | hex left value high =>
      rw [readQuoted] at h
      rw [TextState.skipped, skipQuoted]
      split at h
      · cases h
      · rename_i d hd
        rw [if_pos (by rw [hd]; rfl)]
        simp only at h
        by_cases hl : 2 ≤ left
        · rw [if_pos hl] at h ⊢
          exact ih h
        rw [if_neg hl] at h ⊢
        split at h
        · split_ifs at h
          · exact ih h
          · obtain ⟨t', -, h⟩ := prepend_eq_ok_iff.1 h
            exact ih h
        · split_ifs at h
          obtain ⟨t', -, h⟩ := prepend_eq_ok_iff.1 h
          exact ih h
    | wantEscape high =>
      rw [readQuoted] at h
      split_ifs at h with hc
      subst hc
      exact ih h
    | wantUnit high =>
      rw [readQuoted] at h
      split_ifs at h with hc hf
      subst hc
      rw [TextState.skipped, skipQuoted, if_neg (by decide), if_pos rfl, if_pos hf]
      exact ih h

theorem skipNumber_of_readNumber {positive : Bool} {n : Number}
    (h : readNumber positive cs = .ok (n, rest)) : skipNumber cs = .ok ((), rest) := by
  unfold readNumber at h
  unfold skipNumber
  simp only [bind, Except.bind] at h ⊢
  rcases hw : readWhole cs with e | ⟨whole, r₁⟩ <;> rw [hw] at h
  · cases h
  simp only at h ⊢
  rcases hf : readFraction r₁ with e | ⟨fraction, r₂⟩ <;> rw [hf] at h
  · cases h
  simp only at h ⊢
  rcases he : readExponent r₂ with e | ⟨exponent, r₃⟩ <;> rw [he] at h
  · cases h
  simp only at h ⊢
  split at h
  · cases h
  · split at h
    · split at h <;> cases h <;> rfl
    · cases h
      rfl

/-- A value that is changed after it was read was read with the same rest. -/
theorem ok_of_map {α β : Type} {x : Except Fault (α × List Char)} {f : α × List Char → β} {b : β}
    (h : (x.map fun r => (f r, r.2)) = .ok (b, rest)) :
    ∃ a, x = .ok (a, rest) ∧ b = f (a, rest) := by
  obtain ⟨⟨a, _⟩, hx, hb⟩ := map_eq_ok_iff.1 h
  cases hb
  exact ⟨a, hx, rfl⟩

/-- Where neither a list nor a record begins, a value is skipped in one step. -/
theorem skipValue_scalar (hc : skipBlanks cs = c :: tail) (hl : c ≠ '[') (hr : c ≠ '{') :
    skipValue (fuel + 1) cs = skipValue 1 cs := by
  rw [skipValue, skipValue, hc]
  simp only [if_neg hl, if_neg hr]

theorem readValue_scalar (hc : skipBlanks cs = c :: tail) (hl : c ≠ '[') (hr : c ≠ '{') :
    readValue (fuel + 1) depth cs = readValue 1 0 cs := by
  rw [readValue, readValue, hc]
  simp only [if_neg hl, if_neg hr]

/-- Skipping a scalar ends where reading it ends. -/
theorem skipValue_of_readValue (hc : skipBlanks cs = c :: tail) (hl : c ≠ '[') (hr : c ≠ '{')
    (h : readValue 1 0 cs = .ok (j, rest)) : skipValue 1 cs = .ok ((), rest) := by
  rw [readValue, hc] at h
  rw [skipValue, hc]
  simp only [if_neg hl, if_neg hr] at h ⊢
  split_ifs at h ⊢
  iterate 3
    · obtain ⟨_, hw, -⟩ := ok_of_map h
      exact hw
  iterate 2
    · obtain ⟨_, hn, -⟩ := ok_of_map h
      exact skipNumber_of_readNumber hn
  · obtain ⟨_, ht, -⟩ := ok_of_map h
    exact skipQuoted_of_readQuoted ht

/-! ## There is one value at most -/

mutual

theorem Spells.unique {cs rest rest' : List Char} {j j' : Json} :
    Spells cs j rest → Spells cs j' rest' → j = j' ∧ rest = rest'
  | .scalar hc hl hr h, h' => by
    cases h' with
    | scalar _ _ _ h' =>
      cases h.symm.trans h'
      exact ⟨rfl, rfl⟩
    | list hc' | record hc' =>
      cases hc.symm.trans hc'
      contradiction
  | .list hc h, h' => by
    cases h' with
    | scalar hc' =>
      cases hc.symm.trans hc'
      contradiction
    | list hc' h' =>
      cases hc.symm.trans hc'
      exact (h.unique h').imp_left (congrArg _)
    | record hc' => cases hc.symm.trans hc'
  | .record hc h, h' => by
    cases h' with
    | scalar hc' =>
      cases hc.symm.trans hc'
      contradiction
    | list hc' => cases hc.symm.trans hc'
    | record hc' h' =>
      cases hc.symm.trans hc'
      exact (h.unique h').imp_left (congrArg _)

theorem SpellsItems.unique {first : Bool} {cs rest rest' : List Char} {js js' : List Json} :
    SpellsItems first cs js rest → SpellsItems first cs js' rest' → js = js' ∧ rest = rest'
  | .nil hn hc, h' => by
    cases h' with
    | nil hn' hc' =>
      cases hn.symm.trans hn'
      cases hc.symm.trans hc'
      exact ⟨rfl, rfl⟩
    | cons hn' => cases hn.symm.trans hn'
  | .cons hn hv hs, h' => by
    cases h' with
    | nil hn' => cases hn.symm.trans hn'
    | cons hn' hv' hs' =>
      cases hn.symm.trans hn'
      obtain ⟨rfl, rfl⟩ := hv.unique hv'
      exact (hs.unique hs').imp_left (congrArg _)

theorem SpellsMembers.unique {first : Bool} {cs rest rest' : List Char}
    {ms js js' : List (String × Json)} :
    SpellsMembers first ms cs js rest → SpellsMembers first ms cs js' rest' →
      js = js' ∧ rest = rest'
  | .nil hn hc, h' => by
    cases h' with
    | nil hn' hc' =>
      cases hn.symm.trans hn'
      cases hc.symm.trans hc'
      exact ⟨rfl, rfl⟩
    | cons hn' => cases hn.symm.trans hn'
  | .cons hn hk hcolon hv hs, h' => by
    cases h' with
    | nil hn' => cases hn.symm.trans hn'
    | cons hn' hk' hcolon' hv' hs' =>
      cases hn.symm.trans hn'
      cases hk.symm.trans hk'
      cases hcolon.symm.trans hcolon'
      obtain ⟨rfl, rfl⟩ := hv.unique hv'
      exact hs.unique hs'

end

/-! ## What is skipped spells something -/

structure SpellsSkipped (fuel : Nat) : Prop where
  value : ∀ {cs rest}, skipValue fuel cs = .ok ((), rest) → ∃ j, Spells cs j rest
  items : ∀ {first cs rest}, skipItems fuel first cs = .ok ((), rest) →
    ∃ js, SpellsItems first cs js rest
  members : ∀ {first ms cs rest}, skipMembers fuel first cs = .ok ((), rest) →
    ∃ ms', SpellsMembers first ms cs ms' rest

theorem SpellsSkipped.value_succ (ih : SpellsSkipped fuel)
    (h : skipValue (fuel + 1) cs = .ok ((), rest)) : ∃ j, Spells cs j rest := by
  rcases hc : skipBlanks cs with _ | ⟨c, tail⟩
  · rw [skipValue, hc] at h
    cases h
  by_cases hl : c = '['
  · subst hl
    rw [skipValue, hc] at h
    obtain ⟨js, hs⟩ := ih.items h
    exact ⟨_, .list hc hs⟩
  by_cases hr : c = '{'
  · subst hr
    rw [skipValue, hc] at h
    obtain ⟨ms, hs⟩ := ih.members h
    exact ⟨_, .record hc hs⟩
  exact ⟨_, .scalar hc hl hr (skipValue_scalar hc hl hr ▸ h)⟩

theorem SpellsSkipped.items_succ (ih : SpellsSkipped fuel)
    (h : skipItems (fuel + 1) first cs = .ok ((), rest)) : ∃ js, SpellsItems first cs js rest := by
  rw [skipItems] at h
  split at h
  · cases h
  · rename_i hn
    exact ⟨[], .nil hn h⟩
  · rename_i hn
    split at h
    · cases h
    rename_i hv
    obtain ⟨j, hj⟩ := ih.value hv
    obtain ⟨js, hs⟩ := ih.items h
    exact ⟨j :: js, .cons hn hj hs⟩

theorem SpellsSkipped.members_succ (ih : SpellsSkipped fuel) {ms : List (String × Json)}
    (h : skipMembers (fuel + 1) first cs = .ok ((), rest)) :
    ∃ ms', SpellsMembers first ms cs ms' rest := by
  rw [skipMembers] at h
  split at h
  · cases h
  · rename_i hn
    exact ⟨ms, .nil hn h⟩
  rename_i hn
  split at h
  · cases h
  rename_i hk
  split at h
  · cases h
  rename_i hcolon
  split at h
  · cases h
  rename_i hv
  obtain ⟨j, hj⟩ := ih.value hv
  obtain ⟨ms', hs⟩ := ih.members h
  exact ⟨ms', .cons hn hk hcolon hj hs⟩

theorem spellsSkipped (fuel : Nat) : SpellsSkipped fuel := by
  induction fuel with
  | zero => exact ⟨nofun, nofun, nofun⟩
  | succ fuel ih => exact ⟨ih.value_succ, ih.items_succ, ih.members_succ⟩

theorem spells_of_skip (h : skip cs = .ok ((), rest)) : ∃ j, Spells cs j rest :=
  (spellsSkipped _).value h

/-! ## What is read is spelt -/

theorem spells_of_scalar (hc : skipBlanks cs = c :: tail) (hl : c ≠ '[') (hr : c ≠ '{')
    (h : readValue 1 0 cs = .ok (j, rest)) : Spells cs j rest := by
  have hs : scalar cs = j := by rw [scalar, h]
  exact hs ▸ .scalar hc hl hr (skipValue_of_readValue hc hl hr h)

theorem putMember_of_readQuoted {k : List Char} {ms : List (String × Json)}
    (h : readQuoted .plain cs = .ok (k, rest)) :
    putMember cs j ms = Assoc.put (String.ofList k) j ms := by
  rw [putMember, h]

structure SpellsRead (fuel : Nat) : Prop where
  value : ∀ {depth cs j rest}, readValue fuel depth cs = .ok (j, rest) → Spells cs j rest
  items : ∀ {depth first cs js rest}, readItems fuel depth first cs = .ok (js, rest) →
    SpellsItems first cs js rest
  members : ∀ {depth first ms cs ms' rest}, readMembers fuel depth first ms cs = .ok (ms', rest) →
    SpellsMembers first ms cs ms' rest

theorem SpellsRead.value_succ (ih : SpellsRead fuel)
    (h : readValue (fuel + 1) depth cs = .ok (j, rest)) : Spells cs j rest := by
  rcases hc : skipBlanks cs with _ | ⟨c, tail⟩
  · rw [readValue, hc] at h
    cases h
  by_cases hl : c = '['
  · subst hl
    rw [readValue, hc] at h
    simp only [Char.reduceEq, if_false, if_true] at h
    split_ifs at h
    · contradiction
    obtain ⟨js, hs, rfl⟩ := ok_of_map h
    exact .list hc (ih.items hs)
  by_cases hr : c = '{'
  · subst hr
    rw [readValue, hc] at h
    simp only [Char.reduceEq, if_false, if_true] at h
    split_ifs at h
    · contradiction
    obtain ⟨ms, hs, rfl⟩ := ok_of_map h
    exact .record hc (ih.members hs)
  exact spells_of_scalar hc hl hr (readValue_scalar hc hl hr ▸ h)

theorem SpellsRead.items_succ (ih : SpellsRead fuel) {js : List Json}
    (h : readItems (fuel + 1) depth first cs = .ok (js, rest)) : SpellsItems first cs js rest := by
  rw [readItems] at h
  split at h
  · cases h
  · rename_i hn
    obtain ⟨_, hc, rfl⟩ := ok_of_map h
    exact .nil hn hc
  · rename_i hn
    split at h
    · cases h
    rename_i hv
    obtain ⟨js, hs, rfl⟩ := ok_of_map h
    exact .cons hn (ih.value hv) (ih.items hs)

theorem SpellsRead.members_succ (ih : SpellsRead fuel) {ms ms' : List (String × Json)}
    (h : readMembers (fuel + 1) depth first ms cs = .ok (ms', rest)) :
    SpellsMembers first ms cs ms' rest := by
  rw [readMembers] at h
  split at h
  · cases h
  · rename_i hn
    obtain ⟨_, hc, rfl⟩ := ok_of_map h
    exact .nil hn hc
  rename_i hn
  split at h
  · cases h
  rename_i hk
  split at h
  · cases h
  rename_i hcolon
  split at h
  · cases h
  rename_i hv
  refine .cons hn (skipQuoted_of_readQuoted hk) hcolon (ih.value hv) ?_
  rw [putMember_of_readQuoted hk]
  exact ih.members h

theorem spellsRead (fuel : Nat) : SpellsRead fuel := by
  induction fuel with
  | zero => exact ⟨nofun, nofun, nofun⟩
  | succ fuel ih => exact ⟨ih.value_succ, ih.items_succ, ih.members_succ⟩

theorem spells_of_read (h : value cs = .ok (j, rest)) : Spells cs j rest :=
  (spellsRead _).value h

/-! ## Whole texts -/

/-- The value that a whole text spells. -/
def Spelled (s : String) (j : Json) : Prop :=
  ∃ rest, Spells s.toList j rest ∧ (skipBlanks rest).isEmpty = true

theorem Spelled.unique {s : String} {j' : Json} (h : Spelled s j) (h' : Spelled s j') : j = j' := by
  obtain ⟨_, h, -⟩ := h
  obtain ⟨_, h', -⟩ := h'
  exact (h.unique h').1

theorem document_eq_ok_iff {α : Type} {r : Reader α} {s : String} {a : α} :
    document r s = .ok a ↔
      ∃ rest, r s.toList = .ok (a, rest) ∧ (skipBlanks rest).isEmpty = true := by
  unfold document
  rcases r s.toList with e | ⟨a', rest⟩
  · simp
  constructor
  · intro h
    simp only at h
    split_ifs at h with hr
    cases h
    exact ⟨rest, rfl, hr⟩
  · rintro ⟨_, h, hr⟩
    cases h
    exact if_pos hr

/-- A text that can be read as a value of any kind spells that value. -/
theorem spelled_of_document {s : String} (h : document value s = .ok j) : Spelled s j := by
  obtain ⟨rest, hv, he⟩ := document_eq_ok_iff.1 h
  exact ⟨rest, spells_of_read hv, he⟩

end SlotBroker.Json.Reader
