import SlotBroker.Proofs.Json.Session
import SlotBroker.Proofs.Text.Digits

/-!
# Values that were written

A reader restores a value if it takes what was written of it from the front of the input and gives
what it was written for (`Restores`). What follows a value that was written is the end of the input
or a mark of the list or record around it, so a number is read up to its end. A record is filled
member by member from what was written of its members (`Fills`).
-/

namespace SlotBroker.Json.Reader

variable {α β σ : Type} {r : Reader α} {v : Json} {a : α} {rest ds : List Char} {c : Char}
  {n bound fuel : Nat}

/-- What may stand after a value that was written. -/
def Trails (rest : List Char) : Prop := ∀ c ∈ rest.head?, c = ',' ∨ c = ']' ∨ c = '}'

/-- The reader takes what was written of a value from the front of the input. -/
def Restores (r : Reader α) (v : Json) (a : α) : Prop :=
  ∀ rest, Trails rest → r (writeValue v ++ rest) = .ok (a, rest)

theorem Restores.document (h : Restores r v a) : document r v.render = .ok a := by
  have hr := h [] (by rintro c ⟨⟩)
  rw [List.append_nil] at hr
  rw [Reader.document, Json.render, String.toList_ofList, hr]
  rfl

theorem Restores.map (h : Restores r v a) (f : α → β) : Restores (map r f) v (f a) := by
  intro rest hr
  simp only [Reader.map, h rest hr]

theorem Restores.filterMap {f : α → Option β} {b : β} (h : Restores r v a) (hf : f a = some b) :
    Restores (filterMap r f) v b := by
  intro rest hr
  simp only [Reader.filterMap, h rest hr, hf]

/-! ## Texts -/

theorem quote_append (k : String) (rest : List Char) :
    quote k ++ rest = '"' :: (k.toList.flatMap escapeChar ++ '"' :: rest) := by
  simp [quote]

theorem restores_text (t : String) : Restores text (.text t) t := by
  intro rest _
  rw [writeValue, quote_append]
  exact text_eq_ok_iff.2 ⟨_, _, rfl, readQuoted_quoted t.toList rest, String.ofList_toList.symm⟩

theorem restores_label {ofLabel : String → Option α} {t : String} (h : ofLabel t = some a) :
    Restores (label ofLabel) (.text t) a := by
  intro rest hr
  have ht := (restores_text t).filterMap h rest hr
  rw [writeValue, quote_append] at ht ⊢
  exact ht

/-! ## Numbers -/

theorem Trails.not_digit (h : Trails rest) : ∀ c ∈ rest.head?, c.isDigit = false := by
  intro c hc
  rcases h c hc with rfl | rfl | rfl <;> rfl

theorem readDigits_append (hn : ds ≠ []) (hd : ∀ c ∈ ds, c.isDigit = true)
    (hr : ∀ c ∈ rest.head?, c.isDigit = false) : readDigits (ds ++ rest) = .ok (ds, rest) := by
  obtain ⟨ht, hw⟩ := Text.takeWhile_of_head hr
  rw [readDigits, List.takeWhile_append_of_pos hd, List.dropWhile_append_of_pos hd, ht, hw,
    List.append_nil]
  split
  · exact absurd rfl hn
  · exact absurd rfl hn
  · rfl

theorem readWhole_digits (hr : ∀ c ∈ rest.head?, c.isDigit = false) :
    readWhole (Text.digits 10 n ++ rest) = .ok (Text.digits 10 n, rest) := by
  rw [readWhole, readDigits_append (Text.digits_ne_nil 10 n)
    (fun _ => Text.isDigit_of_mem_digits) hr]
  split
  · rename_i h
    simp only [Except.ok.injEq, Prod.mk.injEq] at h
    have hzero := Text.no_leading_zero (show 2 ≤ 10 by decide) (by decide) n
    simp [h.1] at hzero
  · rfl

/-- Digits of a number that fits 64 bits all count. -/
theorem significand_digits {acc : Nat} (h : Text.decimalFrom acc ds < UInt64.size) :
    significand acc ds = (Text.decimalFrom acc ds, []) := by
  induction ds generalizing acc with
  | nil => rfl
  | cons c ds ih =>
    have hle := Text.le_decimalFrom (acc * 10 + (c.toNat - '0'.toNat)) ds
    have hcons : Text.decimalFrom acc (c :: ds) =
        Text.decimalFrom (acc * 10 + (c.toNat - '0'.toNat)) ds := rfl
    rw [hcons] at h ⊢
    rw [significand, if_pos (Nat.lt_of_le_of_lt hle h), ih h]

theorem not_isTooLarge (hn : n < UInt64.size) : isTooLarge (Text.digits 10 n) [] 0 = false := by
  have hv : Text.decimalFrom 0 (Text.digits 10 n) = n := Text.decimalValue_digits n
  have hs : significand 0 (Text.digits 10 n) = (n, []) := by
    rw [significand_digits (by rwa [hv]), hv]
  have hlimit : n < doubleLimit := Nat.lt_of_lt_of_le hn (by decide +kernel)
  simp only [isTooLarge, hs, significand]
  simp
  omega

theorem Trails.readFraction (h : Trails rest) : readFraction rest = .ok (none, rest) := by
  unfold Reader.readFraction
  split
  · rcases h '.' rfl with h | h | h <;> cases h
  · rfl

theorem Trails.readExponent (h : Trails rest) : readExponent rest = .ok (none, rest) := by
  rcases rest with _ | ⟨c, rest⟩
  · rfl
  · rcases h c rfl with rfl | rfl | rfl <;> rfl

theorem readNumber_digits (hn : n < UInt64.size) (hr : Trails rest) :
    readNumber true (Text.digits 10 n ++ rest) = .ok (.nat n, rest) := by
  have hv : digitsValue (Text.digits 10 n) = n := Text.decimalValue_digits n
  rw [readNumber, readWhole_digits hr.not_digit]
  simp only [bind, Except.bind, hr.readFraction, hr.readExponent, Option.getD_none,
    not_isTooLarge hn, hv, if_pos hn, Bool.false_eq_true, if_false, if_true]

theorem writeValue_nat (n : Nat) : writeValue (.nat n) = Text.digits 10 n := by
  rw [Json.nat, writeValue, Text.signedDecimal, if_neg (Int.not_lt.2 (Int.natCast_nonneg n)),
    Int.natAbs_natCast, Text.decimal, String.toList_ofList]

theorem skipBlanks_cons (h : isJsonBlank c = false) : skipBlanks (c :: rest) = c :: rest :=
  List.dropWhile_cons_of_neg (by simp [h])

theorem not_isJsonBlank (h : c.isDigit = true) : isJsonBlank c = false := by
  by_contra hb
  simp only [isJsonBlank, Bool.not_eq_false, Bool.or_eq_true, beq_iff_eq] at hb
  rcases hb with ((rfl | rfl) | rfl) | rfl <;> cases h

theorem restores_natBelow (hn : n < bound) (hb : bound ≤ UInt64.size) :
    Restores (natBelow bound) (.nat n) n := by
  intro rest hr
  obtain ⟨c, ds, hds⟩ := List.exists_cons_of_ne_nil (Text.digits_ne_nil 10 n)
  have hc : c.isDigit = true := Text.isDigit_of_mem_digits (by rw [hds]; exact List.mem_cons_self)
  have hread := readNumber_digits (Nat.lt_of_lt_of_le hn hb) hr
  rw [hds, List.cons_append] at hread
  rw [writeValue_nat, hds, List.cons_append, natBelow, skipBlanks_cons (not_isJsonBlank hc)]
  simp only [hc, if_true, hread, if_pos hn]

/-! ## Records -/

/-- What was written of some members, taken one after another, leads from one draft to another. -/
inductive Fills (ms : List (Member σ)) : σ → List (String × Json) → σ → Prop
  | nil {s} : Fills ms s [] s
  | cons {m k v s s' s'' vs} (hf : (ms.find? fun m => m.key == k) = some m)
      (hr : m.isRead s = false) (hv : Restores (m.read s) v s') (h : Fills ms s' vs s'') :
      Fills ms s ((k, v) :: vs) s''

variable {ms : List (Member σ)} {s s' : σ} {vs : List (String × Json)}

theorem trails_writeMembers (vs : List (String × Json)) (rest : List Char) :
    Trails (writeMembers vs ++ rest) := by
  rcases vs with _ | ⟨⟨k, v⟩, vs⟩ <;> rintro c ⟨⟩
  · exact .inr (.inr rfl)
  · exact .inl rfl

/-- A member is read from its key to the end of its value. Before all but the first is a comma. -/
theorem recordMembers_member {m : Member σ} {k : String} (fuel : Nat) (first : Bool)
    (hf : (ms.find? fun m => m.key == k) = some m) (hr : m.isRead s = false)
    (hv : Restores (m.read s) v s') (ht : Trails rest) :
    recordMembers ms (fuel + 1) first s
        ((if first then [] else [',']) ++ (quote k ++ ':' :: (writeValue v ++ rest))) =
      recordMembers ms fuel false s' rest := by
  have hkey : nextKey first
      ((if first then [] else [',']) ++ (quote k ++ ':' :: (writeValue v ++ rest))) =
        .ok (true, k.toList.flatMap escapeChar ++ '"' :: ':' :: (writeValue v ++ rest)) := by
    rw [quote_append]
    cases first <;> rfl
  have hcolon : readColon (':' :: (writeValue v ++ rest)) = .ok ((), writeValue v ++ rest) := rfl
  rw [recordMembers, hkey]
  simp only [readQuoted_quoted, String.ofList_toList, hf, hr, Bool.false_eq_true, if_false, hcolon,
    hv rest ht]

theorem Fills.recordMembers (h : Fills ms s vs s') (hn : vs.length < fuel) (rest : List Char) :
    recordMembers ms fuel false s (writeMembers vs ++ rest) = .ok (s', '}' :: rest) := by
  induction h generalizing fuel with
  | nil =>
    obtain ⟨fuel, rfl⟩ : ∃ n, fuel = n + 1 := ⟨fuel - 1, by rw [List.length_nil] at hn; omega⟩
    rfl
  | @cons m k v s s₁ s' vs hf hr hv h ih =>
    rw [List.length_cons] at hn
    obtain ⟨fuel, rfl⟩ : ∃ n, fuel = n + 1 := ⟨fuel - 1, by omega⟩
    have hmember := recordMembers_member fuel false hf hr hv (trails_writeMembers vs rest)
    rw [ih (by omega)] at hmember
    rw [writeMembers, List.cons_append, List.append_assoc, List.cons_append, List.append_assoc]
    exact hmember

theorem length_lt_writeMembers (vs : List (String × Json)) :
    vs.length < (writeMembers vs).length := by
  induction vs with
  | nil => exact Nat.zero_lt_one
  | cons p vs ih =>
    obtain ⟨k, v⟩ := p
    simp only [writeMembers, List.length_cons, List.length_append]
    omega

theorem Fills.restores {start : σ} {finish : σ → Option α} (h : Fills ms start vs s)
    (hf : finish s = some a) : Restores (record ms start finish) (.record vs) a := by
  intro rest _
  have hread (body : List Char)
      (hb : Reader.recordMembers ms (body.length + 1) true start body = .ok (s, '}' :: rest)) :
      record ms start finish ('{' :: body) = .ok (a, rest) := by
    have hc : readClose '}' ('}' :: rest) = .ok ((), rest) := rfl
    have hbrace : skipBlanks ('{' :: body) = '{' :: body := rfl
    simp only [record, hbrace, hb, hf, hc]
    rfl
  cases h with
  | nil => exact hread _ rfl
  | @cons m k v _ s₁ _ vs hk hr hv h =>
    rw [writeValue, List.cons_append, List.append_assoc, List.cons_append, List.append_assoc]
    refine hread _ ((recordMembers_member _ true hk hr hv (trails_writeMembers vs rest)).trans ?_)
    refine h.recordMembers ?_ rest
    have := length_lt_writeMembers vs
    simp only [List.length_append, List.length_cons]
    omega

/-! ## Lists -/

variable {js : List Json} {as : List α}

/-- What was written of a value begins neither with a blank nor with the end of a list. -/
def Opens (v : Json) : Prop :=
  ∃ c cs, writeValue v = c :: cs ∧ isJsonBlank c = false ∧ c ≠ ']'

theorem opens_record (vs : List (String × Json)) : Opens (.record vs) := by
  rcases vs with _ | ⟨⟨k, v⟩, vs⟩
  · exact ⟨'{', _, rfl, by decide, by decide⟩
  · exact ⟨'{', _, by rw [writeValue], by decide, by decide⟩

theorem trails_writeItems (js : List Json) (rest : List Char) : Trails (writeItems js ++ rest) := by
  rcases js with _ | ⟨j, js⟩ <;> rintro c ⟨⟩
  · exact .inr (.inl rfl)
  · exact .inl rfl

/-- Before every item but the first is a comma. -/
theorem nextItem_item (first : Bool) (ho : Opens v) (rest : List Char) :
    nextItem first ((if first then [] else [',']) ++ (writeValue v ++ rest)) =
      .ok (true, writeValue v ++ rest) := by
  obtain ⟨c, cs, hw, hb, hc⟩ := ho
  have hs : skipBlanks (c :: (cs ++ rest)) = c :: (cs ++ rest) := skipBlanks_cons hb
  have hcomma : skipBlanks (',' :: c :: (cs ++ rest)) = ',' :: c :: (cs ++ rest) := rfl
  rw [hw, List.cons_append]
  cases first
  · change nextItem false (',' :: c :: (cs ++ rest)) = _
    simp [nextItem, hcomma, hs, hc]
  · change nextItem true (c :: (cs ++ rest)) = _
    simp [nextItem, hs]

theorem listItems_item {item : Reader α} (fuel : Nat) (first : Bool) (ho : Opens v)
    (hv : Restores item v a) (ht : Trails rest) :
    listItems item (fuel + 1) first ((if first then [] else [',']) ++ (writeValue v ++ rest)) =
      (listItems item fuel false rest).map fun r => (a :: r.1, r.2) := by
  rw [listItems, nextItem_item first ho]
  simp only [hv rest ht]

theorem listItems_written {item : Reader α} (h : List.Forall₂ (Restores item) js as)
    (ho : ∀ j ∈ js, Opens j) (hn : js.length < fuel) (rest : List Char) :
    listItems item fuel false (writeItems js ++ rest) = .ok (as, rest) := by
  induction h generalizing fuel with
  | nil =>
    obtain ⟨fuel, rfl⟩ : ∃ n, fuel = n + 1 := ⟨fuel - 1, by rw [List.length_nil] at hn; omega⟩
    rfl
  | @cons j a js as hj h ih =>
    rw [List.forall_mem_cons] at ho
    rw [List.length_cons] at hn
    obtain ⟨fuel, rfl⟩ : ∃ n, fuel = n + 1 := ⟨fuel - 1, by omega⟩
    have hitem := listItems_item fuel false ho.1 hj (trails_writeItems js rest)
    rw [ih ho.2 (by omega)] at hitem
    rw [writeItems, List.cons_append, List.append_assoc]
    exact hitem

theorem length_lt_writeItems (js : List Json) : js.length < (writeItems js).length := by
  induction js with
  | nil => exact Nat.zero_lt_one
  | cons j js ih =>
    simp only [writeItems, List.length_cons, List.length_append]
    omega

theorem restores_list {item : Reader α} (h : List.Forall₂ (Restores item) js as)
    (ho : ∀ j ∈ js, Opens j) : Restores (list item) (.list js) as := by
  intro rest _
  cases h with
  | nil => rfl
  | @cons j a js as hj h =>
    rw [List.forall_mem_cons] at ho
    rw [writeValue, List.cons_append, List.append_assoc]
    have hitem := fun fuel => listItems_item fuel true ho.1 hj (trails_writeItems js rest)
    have hbracket : ∀ cs, skipBlanks ('[' :: cs) = '[' :: cs := fun _ => rfl
    have hlen := length_lt_writeItems js
    simp only [list, hbracket]
    refine (hitem _).trans ?_
    rw [listItems_written h ho.2 ?_ rest]
    · rfl
    · simp only [List.length_append]
      omega

end SlotBroker.Json.Reader
