import TableSchema.Proofs.Check.Labels

/-!
# Errors by label

Where a label stands in the errors of a report and what stands there come from different fields: the first
with that label gives the place, the last one the messages. `errors_by_label` says so for any entries at all,
and that no two labels are alike, neither by themselves nor as they are shown.
-/

namespace TableSchema

/-! ## Labels -/

namespace FieldChecks

theorem label_eq_key_iff (f : FieldChecks) (k : String) : f.label = .key k ↔ f.key = some k := by
  unfold label
  cases f.key <;> simp

end FieldChecks

namespace Label

theorem text_key_ne_index (k : String) (i : Nat) : (key k).text ≠ (index i).text := by
  intro h
  have hhead := congrArg (·.toList.head?) h
  simp [text] at hhead

theorem text_inj {l l' : Label} (h : l.text = l'.text) : l = l' := by
  cases l with
  | key k =>
    cases l' with
    | key k' =>
      have hquoted := (String.append_left_inj _).mp h
      rw [(String.append_right_inj _).mp hquoted]
    | index i => exact absurd h (text_key_ne_index k i)
  | index i =>
    cases l' with
    | key k => exact absurd h.symm (text_key_ne_index k i)
    | index j =>
      have hdigits := congrArg String.toList ((String.append_right_inj _).mp h)
      have hvalue := congrArg (Nat.ofDigitChars 10 · 0) hdigits
      simp only [Nat.toString_eq_repr, Nat.toList_repr, Nat.ofDigitChars_ten_toDigits] at hvalue
      rw [hvalue]

end Label

/-! ## Groups -/

namespace Report

section
variable (r : Report)

theorem errors_eq : r.errors =
    (r.labels.eraseDups.map fun l => (l, r.messagesOf l)).filter fun group => !group.2.isEmpty := by
  unfold errors
  rw [grouped_eq]

theorem last?_eq_some_iff (l : Label) (f : FieldChecks) : r.last? l = some f ↔
    f.label = l ∧ ∃ before after, r.fields = before ++ f :: after ∧ ∀ g ∈ after, g.label ≠ l := by
  unfold last?
  rw [List.find?_eq_some_iff_append, beq_iff_eq]
  refine and_congr_right fun _ => ⟨?_, ?_⟩
  · rintro ⟨after, before, hsplit, hafter⟩
    refine ⟨before.reverse, after.reverse, ?_, ?_⟩
    · simpa using congrArg List.reverse hsplit
    · simpa using hafter
  · rintro ⟨before, after, hsplit, hafter⟩
    refine ⟨after.reverse, before.reverse, ?_, ?_⟩
    · simp [hsplit]
    · simpa using hafter

theorem mem_errors_iff (l : Label) (ms : List String) : (l, ms) ∈ r.errors ↔
    ms ≠ [] ∧ ∃ f, r.last? l = some f ∧ f.messages = ms := by
  have hgroup : (l, ms) ∈ r.grouped ↔ ∃ f, r.last? l = some f ∧ f.messages = ms := by
    have hn : (r.grouped.map (·.1)).Nodup := by
      rw [map_fst_grouped]
      exact nodup_eraseDups r.labels
    rw [mem_iff_lookup hn, lookup_grouped, Option.map_eq_some_iff]
  unfold errors
  rw [List.mem_filter, hgroup, and_comm]
  simp

theorem pairwise_idxOf_errors :
    (r.errors.map (·.1)).Pairwise fun l l' => r.labels.idxOf l < r.labels.idxOf l' := by
  rw [map_fst_errors]
  exact (pairwise_idxOf_eraseDups r.labels).filter _

end

/-- The errors are the distinct labels where they come first, each with the messages of the last entry with it,
in the order of the checks; labels that have no messages are left out. An entry without a key shares no label
with one that has a key, whatever the key, and different labels are shown as different texts. -/
theorem errors_by_label (fields : List FieldChecks) :
    let r := Report.mk fields
    r.errors = (r.labels.eraseDups.map fun l => (l, r.messagesOf l)).filter (fun group => !group.2.isEmpty) ∧
    ((r.errors.map (·.1)).Pairwise fun l l' => r.labels.idxOf l < r.labels.idxOf l') ∧
    (∀ l ms, (l, ms) ∈ r.errors ↔ ms ≠ [] ∧ ∃ before f after, fields = before ++ f :: after ∧ f.label = l ∧
      (∀ g ∈ after, g.label ≠ l) ∧ ms = (Check.all.filter fun c => !f.passed c).map (·.message)) ∧
    (∀ f g : FieldChecks, f.key = none → ∀ k, g.key = some k → f.label ≠ g.label) ∧
    ∀ l l' : Label, l ≠ l' → l.text ≠ l'.text := by
  intro r
  refine ⟨r.errors_eq, r.pairwise_idxOf_errors, ?entry, ?keyless, fun l l' hne h => hne (Label.text_inj h)⟩
  case entry =>
    intro l ms
    rw [mem_errors_iff]
    refine and_congr_right fun _ => ⟨?_, ?_⟩
    · rintro ⟨f, hlast, rfl⟩
      obtain ⟨hlabel, before, after, hsplit, hafter⟩ := (r.last?_eq_some_iff l f).mp hlast
      exact ⟨before, f, after, hsplit, hlabel, hafter, rfl⟩
    · rintro ⟨before, f, after, hsplit, hlabel, hafter, rfl⟩
      exact ⟨f, (r.last?_eq_some_iff l f).mpr ⟨hlabel, before, after, hsplit, hafter⟩, rfl⟩
  case keyless =>
    intro f g hf k hg h
    rw [(g.label_eq_key_iff k).mpr hg, FieldChecks.label_eq_key_iff, hf] at h
    cases h

/-- A key may look like a position, but not be shown like one. -/
theorem errors_by_label_hash :
    let unnamed : FieldChecks := ⟨2, none, true, true, false, true⟩
    let named : FieldChecks := ⟨1, some "#2", true, false, true, true⟩
    unnamed.label ≠ named.label ∧ unnamed.label.text ≠ named.label.text := by
  intro unnamed named
  obtain ⟨_, _, _, hlabel, htext⟩ := errors_by_label [unnamed, named]
  have hne := hlabel unnamed named rfl "#2" rfl
  exact ⟨hne, htext _ _ hne⟩

example : (Report.mk [⟨2, none, true, true, false, true⟩, ⟨1, some "#2", false, true, true, true⟩,
      ⟨4, some "a", true, false, true, true⟩, ⟨5, some "#2", true, true, true, false⟩]).errors =
    [(.index 2, ["Base settings failed validation"]), (.key "#2", ["Specifications failed validation"]),
      (.key "a", ["Field wrapper failed validation"])] := by
  decide

end Report

end TableSchema
