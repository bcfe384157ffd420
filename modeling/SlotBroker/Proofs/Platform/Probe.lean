import Mathlib.Data.List.Nodup
import SlotBroker.Platform.Probe
import SlotBroker.Proofs.Location
import SlotBroker.Proofs.Text.Bytes

/-!
# What a probe may print

The probe's output is read after the blanks at its end were cut off, line by line, and each line is
trimmed again. None of this shows: what counts are the text's trimmed lines that are not blank
(`Text.contents`), and cutting the end off changes none of them. A list of locations reads as these
lines if none of them has a blank inside and no two are equal (`readLocations_eq_ok_iff`), and the
name of a backend is the first of them. So a successful run is answered by the grammar of its
output, whatever bytes it printed (`grammar`).
-/

namespace SlotBroker.Probe

variable {s : String} {l : Location} {p : Probe} {stdout stderr : List UInt8}

/-! ## Lines -/

theorem map_trim_contentLines (s : String) :
    (contentLines s).map Text.trim = Text.contents s.toList := by
  have hb : ∀ l : List Char, (!Text.isAllBlank l) = decide (Text.trim l ≠ []) := by
    intro l
    simp only [ne_eq, decide_not, ← Text.isAllBlank_iff, Bool.decide_eq_true]
  rw [contentLines, ← Text.map_trim_lines, List.filter_map]
  simp only [hb, Function.comp_def]

theorem contents_trimmedEnd (s : String) :
    Text.contents (Text.trimmedEnd s).toList = Text.contents s.toList := by
  rw [Text.trimmedEnd, String.toList_ofList, Text.contents_trimEnd]

theorem readLocations_map_trim (seen : List Location) (ls : List (List Char)) :
    readLocations seen (ls.map Text.trim) = readLocations seen ls := by
  induction ls generalizing seen with
  | nil => rfl
  | cons l ls ih =>
    have hl : Location.parse (String.ofList (Text.trim l)) = Location.parse (String.ofList l) := by
      simpa [Text.trimmed] using Location.parse_trimmed (String.ofList l)
    rw [List.map_cons, readLocations, readLocations, hl]
    simp only [ih]

theorem readLocations_cons {seen keys : List Location} {l : List Char} {ls : List (List Char)} :
    readLocations seen (l :: ls) = .ok keys ↔
      ∃ k ks, keys = k :: ks ∧ Location.parse (String.ofList l) = .ok k ∧ k ∉ seen ∧
        readLocations (k :: seen) ls = .ok ks := by
  rw [readLocations]
  rcases Location.parse (String.ofList l) with e | k
  · simp
  · by_cases hk : k ∈ seen
    · simp [hk]
    · rcases hr : readLocations (k :: seen) ls with e | ks
      · simp [hk, hr]
      · simp [hk, hr, eq_comm]

theorem readLocations_eq_ok_iff {seen keys : List Location} {ls : List (List Char)} :
    readLocations seen ls = .ok keys ↔
      keys.map (·.text.toList) = ls.map Text.trim ∧ (∀ k ∈ keys, k.WellFormed) ∧ keys.Nodup ∧
        ∀ k ∈ keys, k ∉ seen := by
  induction ls generalizing seen keys with
  | nil =>
    rw [readLocations]
    rcases keys <;> simp
  | cons l ls ih =>
    have ht : ∀ k : Location, k.text = Text.trimmed (String.ofList l) ↔
        k.text.toList = Text.trim l := by
      intro k
      rw [Text.trimmed, String.toList_ofList, ← String.toList_inj, String.toList_ofList]
    rw [readLocations_cons]
    constructor
    · rintro ⟨k, ks, rfl, hk, hs, hr⟩
      obtain ⟨hm, hw, hn, hf⟩ := ih.1 hr
      obtain ⟨hk, hkw⟩ := Location.parse_eq_ok_iff.1 hk
      have hkn : k ∉ ks := fun h => hf k h List.mem_cons_self
      refine ⟨?_, ?_, List.nodup_cons.2 ⟨hkn, hn⟩, ?_⟩
      · rw [List.map_cons, List.map_cons, hm, (ht k).1 hk]
      · simp only [List.mem_cons, forall_eq_or_imp]
        exact ⟨hkw, hw⟩
      · simp only [List.mem_cons, forall_eq_or_imp]
        exact ⟨hs, fun k' h' h => hf k' h' (List.mem_cons_of_mem _ h)⟩
    · rintro ⟨hm, hw, hn, hf⟩
      rcases keys with _ | ⟨k, ks⟩
      · simp at hm
      simp only [List.map_cons, List.cons.injEq] at hm
      simp only [List.mem_cons, forall_eq_or_imp] at hw hf
      obtain ⟨hkn, hn⟩ := List.nodup_cons.1 hn
      refine ⟨k, ks, rfl, Location.parse_eq_ok_iff.2 ⟨(ht k).2 hm.1, hw.1⟩, hf.1,
        ih.2 ⟨hm.2, hw.2, hn, ?_⟩⟩
      intro k' h' h
      rcases List.mem_cons.1 h with rfl | h
      · exact hkn h'
      · exact hf.2 k' h' h

/-! ## Answers -/

/-- The locations that a text lists, taken as it is. -/
def locationsIn (p : Probe) (text : String) : Except ProbeError (List Location) :=
  match readLocations [] (contentLines text) with
  | .ok keys => .ok keys
  | .error reason => .error (p.fail .enumerate (.malformed reason))

/-- The backend that a text names for a location, taken as it is. -/
def backendIn (p : Probe) (l : Location) (text : String) : Except ProbeError BackendName :=
  match contentLines text with
  | line :: _ => .ok (BackendName.ofText (String.ofList line))
  | [] => .error (p.fail (.resolve l) .empty)

theorem readLocations_contents (s : String) :
    readLocations [] (Text.contents s.toList) = readLocations [] (contentLines s) := by
  rw [← map_trim_contentLines, readLocations_map_trim]

theorem locationsIn_trimmedEnd (p : Probe) (s : String) :
    p.locationsIn (Text.trimmedEnd s) = p.locationsIn s := by
  unfold locationsIn
  rw [← readLocations_contents, contents_trimmedEnd, readLocations_contents]

theorem backendIn_eq (p : Probe) (l : Location) (s : String) :
    p.backendIn l s = match Text.contents s.toList with
      | line :: _ => .ok ⟨String.ofList line⟩
      | [] => .error (p.fail (.resolve l) .empty) := by
  unfold backendIn
  rw [← map_trim_contentLines]
  rcases contentLines s with _ | ⟨line, ls⟩
  · rfl
  · simp only [List.map_cons, BackendName.ofText, Text.trimmed, String.toList_ofList]

theorem backendIn_trimmedEnd (p : Probe) (l : Location) (s : String) :
    p.backendIn l (Text.trimmedEnd s) = p.backendIn l s := by
  rw [backendIn_eq, backendIn_eq, contents_trimmedEnd]

theorem output_of_text (r : Request) (h : Text.ofBytes? stdout = some s) :
    p.output r (.ended (.code 0) stdout stderr) = .ok (Text.trimmedEnd s) := by
  simp [output, ExitStatus.isSuccess, h]

theorem output_of_none (r : Request) (h : Text.ofBytes? stdout = none) :
    p.output r (.ended (.code 0) stdout stderr) =
      .error (p.fail r (.malformed "output is not valid UTF-8")) := by
  simp [output, ExitStatus.isSuccess, h]

theorem locations_of_text (h : Text.ofBytes? stdout = some s) :
    p.locations (.ended (.code 0) stdout stderr) = p.locationsIn s := by
  rw [← locationsIn_trimmedEnd, locations, output_of_text _ h]
  cases hr : readLocations [] (contentLines (Text.trimmedEnd s)) <;> simp only [locationsIn, hr]

theorem backend_of_text (h : Text.ofBytes? stdout = some s) :
    p.backend l (.ended (.code 0) stdout stderr) = p.backendIn l s := by
  rw [← backendIn_trimmedEnd, backend, output_of_text _ h]
  cases hl : contentLines (Text.trimmedEnd s) <;> simp only [backendIn, hl]

theorem locations_of_none (h : Text.ofBytes? stdout = none) :
    p.locations (.ended (.code 0) stdout stderr) =
      .error (p.fail .enumerate (.malformed "output is not valid UTF-8")) := by
  rw [locations, output_of_none _ h]

theorem backend_of_none (h : Text.ofBytes? stdout = none) :
    p.backend l (.ended (.code 0) stdout stderr) =
      .error (p.fail (.resolve l) (.malformed "output is not valid UTF-8")) := by
  rw [backend, output_of_none _ h]

theorem locationsIn_eq_ok_iff {keys : List Location} :
    p.locationsIn s = .ok keys ↔
      keys.map (·.text.toList) = Text.contents s.toList ∧ (∀ k ∈ keys, k.WellFormed) ∧
        keys.Nodup := by
  have hr : readLocations [] (contentLines s) = .ok keys ↔ _ := readLocations_eq_ok_iff
  rw [map_trim_contentLines] at hr
  unfold locationsIn
  rcases h : readLocations [] (contentLines s) with e | ks
  · rw [h] at hr
    simp only [reduceCtorEq, false_iff] at hr ⊢
    simpa using hr
  · rw [h] at hr
    simpa using hr

theorem wellFormed_of_locations {e : Execution} {keys : List Location}
    (h : p.locations e = .ok keys) : ∀ k ∈ keys, k.WellFormed := by
  unfold locations at h
  split at h
  · cases h
  · split at h
    · rename_i hr
      cases h
      exact (readLocations_eq_ok_iff.1 hr).2.1
    · cases h

/-! ## The grammar -/

/-- How a run is answered that ended well and printed some bytes. -/
structure Grammar (p : Probe) (stdout stderr : List UInt8) : Prop where
  locations_ok : ∀ keys, p.locations (.ended (.code 0) stdout stderr) = .ok keys ↔
    ∃ s, Text.toBytes s = stdout ∧
      (∀ line ∈ Text.printed s.toList,
        Text.trim line = [] ∨ ∀ c ∈ Text.trim line, Text.isBlank c = false) ∧
      (Text.contents s.toList).Nodup ∧ keys.map (·.text.toList) = Text.contents s.toList
  locations_error : ∀ e, p.locations (.ended (.code 0) stdout stderr) = .error e →
    ∃ reason, e = ⟨p.program, "list", .malformed reason⟩
  backend_ok : ∀ l name, p.backend l (.ended (.code 0) stdout stderr) = .ok name ↔
    ∃ s line, Text.toBytes s = stdout ∧
      (Text.printed s.toList).find? (fun line => Text.trim line ≠ []) = some line ∧
      name.text.toList = Text.trim line
  backend_malformed : (∀ s, Text.toBytes s ≠ stdout) → ∀ l,
    p.backend l (.ended (.code 0) stdout stderr) =
      .error ⟨p.program, l.text, .malformed "output is not valid UTF-8"⟩
  backend_empty : ∀ s, Text.toBytes s = stdout →
    (∀ line ∈ Text.printed s.toList, Text.trim line = []) → ∀ l,
      p.backend l (.ended (.code 0) stdout stderr) = .error ⟨p.program, l.text, .empty⟩
  /-- The text without the blanks at its end is answered as the text itself would be. -/
  untrimmed : ∀ s, Text.toBytes s = stdout →
    p.locations (.ended (.code 0) stdout stderr) = p.locationsIn s ∧
      ∀ l, p.backend l (.ended (.code 0) stdout stderr) = p.backendIn l s

theorem head?_contents (cs : List Char) :
    (Text.contents cs).head? =
      ((Text.printed cs).find? fun line => Text.trim line ≠ []).map Text.trim := by
  rw [Text.contents, List.head?_filter, List.find?_map]
  rfl

theorem backendIn_eq_ok_iff {name : BackendName} :
    p.backendIn l s = .ok name ↔
      ∃ line, (Text.printed s.toList).find? (fun line => Text.trim line ≠ []) = some line ∧
        name.text.toList = Text.trim line := by
  obtain ⟨name⟩ := name
  have hh := head?_contents s.toList
  rw [backendIn_eq]
  rcases hf : (Text.printed s.toList).find? fun line => Text.trim line ≠ [] with _ | line
  · rw [hf, Option.map_none, List.head?_eq_none_iff] at hh
    simp [hh]
  · obtain ⟨ls, hc⟩ := List.head?_eq_some_iff.1 (hh.trans (congrArg _ hf))
    simp [hc, ← String.toList_inj, eq_comm]

theorem locationsIn_error {e : ProbeError} (h : p.locationsIn s = .error e) :
    ∃ reason, e = ⟨p.program, "list", .malformed reason⟩ := by
  unfold locationsIn at h
  split at h
  · cases h
  · rename_i reason _
    cases h
    exact ⟨reason, rfl⟩

theorem wellFormed_contents {keys : List Location} {cs : List Char}
    (h : keys.map (·.text.toList) = Text.contents cs) :
    (∀ k ∈ keys, k.WellFormed) ↔
      ∀ line ∈ Text.printed cs,
        Text.trim line = [] ∨ ∀ c ∈ Text.trim line, Text.isBlank c = false := by
  constructor
  · intro hw line hl
    by_cases ht : Text.trim line = []
    · exact .inl ht
    · have hm : Text.trim line ∈ keys.map (·.text.toList) :=
        h ▸ Text.mem_contents.2 ⟨⟨line, hl, rfl⟩, ht⟩
      obtain ⟨k, hk, hkt⟩ := List.mem_map.1 hm
      exact .inr (hkt ▸ (hw k hk).2)
  · intro hl k hk
    obtain ⟨⟨line, hp, ht⟩, hn⟩ := Text.mem_contents.1 (h ▸ List.mem_map_of_mem hk)
    rcases hl line hp with h' | h'
    · exact absurd (ht.symm.trans h') hn
    · exact ⟨hn, ht ▸ h'⟩

theorem nodup_contents {keys : List Location} {cs : List Char}
    (h : keys.map (·.text.toList) = Text.contents cs) : keys.Nodup ↔ (Text.contents cs).Nodup := by
  rw [← h, List.nodup_map_iff]
  rintro ⟨a⟩ ⟨b⟩ hab
  exact congrArg Location.mk (String.toList_inj.1 hab)

theorem grammar_of_text {p : Probe} (h : Text.ofBytes? stdout = some s) :
    p.Grammar stdout stderr := by
  have hs : Text.toBytes s = stdout := Text.ofBytes?_eq_some_iff.1 h
  have hu : ∀ {s'}, Text.toBytes s' = stdout → s' = s := fun h' =>
    Option.some.inj ((Text.ofBytes?_eq_some_iff.2 h').symm.trans h)
  refine ⟨fun keys => ?_, fun e he => ?_, fun l name => ?_, fun hn => absurd hs (hn s),
    fun s' h' hb l => ?_, fun s' h' => ?_⟩
  · rw [locations_of_text h, locationsIn_eq_ok_iff]
    constructor
    · rintro ⟨hk, hw, hn⟩
      exact ⟨s, hs, (wellFormed_contents hk).1 hw, (nodup_contents hk).1 hn, hk⟩
    · rintro ⟨s', h', hw, hn, hk⟩
      obtain rfl := hu h'
      exact ⟨hk, (wellFormed_contents hk).2 hw, (nodup_contents hk).2 hn⟩
  · exact locationsIn_error (locations_of_text h ▸ he)
  · rw [backend_of_text h, backendIn_eq_ok_iff]
    constructor
    · rintro ⟨line, hl⟩
      exact ⟨s, line, hs, hl⟩
    · rintro ⟨s', line, h', hl⟩
      exact ⟨line, hu h' ▸ hl⟩
  · have hc : Text.contents s.toList = [] := by
      rw [hu h'] at hb
      simpa [Text.contents] using hb
    rw [backend_of_text h, backendIn_eq, hc]
    rfl
  · obtain rfl := hu h'
    exact ⟨locations_of_text h, fun l => backend_of_text h⟩

theorem grammar_of_none {p : Probe} (h : Text.ofBytes? stdout = none) :
    p.Grammar stdout stderr := by
  have hn : ∀ s, Text.toBytes s ≠ stdout := fun s hs =>
    absurd (Text.ofBytes?_eq_some_iff.2 hs) (by simp [h])
  refine ⟨fun keys => ?_, fun e he => ?_, fun l name => ?_, fun _ l => backend_of_none h,
    fun s hs => absurd hs (hn s), fun s hs => absurd hs (hn s)⟩
  · rw [locations_of_none h]
    simp [hn]
  · rw [locations_of_none h] at he
    cases he
    exact ⟨_, rfl⟩
  · rw [backend_of_none h]
    simp [hn]

/-- What a run prints that ends well is read by the grammar, whatever bytes it is. -/
theorem grammar (p : Probe) (stdout stderr : List UInt8) : p.Grammar stdout stderr := by
  rcases h : Text.ofBytes? stdout with _ | s
  · exact grammar_of_none h
  · exact grammar_of_text h

end SlotBroker.Probe
