import TableSchema.Proofs.Check.Unique
import TableSchema.Proofs.Repetitions

/-!
# The labels of failing fields

Errors are grouped by label, and a later field replaces what an earlier one with its label said.
`grouped_eq` says for any report what comes of this. In a report on fields, those with one label all fail,
so that no failure is lost: `errors_name_failures`.
-/

namespace TableSchema

namespace Report

/-! ## Messages by label -/

theorem map_fst_setMessages (label : Label) (ms : List String) (groups : List (Label × List String)) :
    (setMessages label ms groups).map (·.1) =
      if label ∈ groups.map (·.1) then groups.map (·.1) else groups.map (·.1) ++ [label] := by
  induction groups with
  | nil => rfl
  | cons group groups ih =>
    obtain ⟨l, ms'⟩ := group
    rw [setMessages]
    by_cases hl : l = label
    · simp [hl]
    · simp only [if_neg hl, List.map_cons, ih, List.mem_cons, Ne.symm hl, false_or]
      split <;> rfl

theorem lookup_setMessages (label : Label) (ms : List String) (groups : List (Label × List String))
    (l : Label) : (setMessages label ms groups).lookup l = if l = label then some ms else groups.lookup l := by
  induction groups with
  | nil => rw [setMessages, lookup_cons_eq_ite]
  | cons group groups ih =>
    obtain ⟨l', ms'⟩ := group
    rw [setMessages, lookup_cons_eq_ite]
    by_cases hl' : l' = label
    · rw [if_pos hl', lookup_cons_eq_ite, hl']
      split <;> rfl
    · rw [if_neg hl', lookup_cons_eq_ite, ih]
      by_cases hl : l = l'
      · rw [if_pos hl, if_pos hl, if_neg (hl ▸ hl')]
      · rw [if_neg hl, if_neg hl]

def labels (r : Report) : List Label :=
  r.fields.map (·.label)

def last? (r : Report) (l : Label) : Option FieldChecks :=
  r.fields.reverse.find? (·.label == l)

def messagesOf (r : Report) (l : Label) : List String :=
  ((r.last? l).map (·.messages)).getD []

theorem grouped_append_singleton (fields : List FieldChecks) (f : FieldChecks) :
    (Report.mk (fields ++ [f])).grouped = setMessages f.label f.messages (Report.mk fields).grouped := by
  simp [grouped]

theorem map_fst_grouped (r : Report) : r.grouped.map (·.1) = r.labels.eraseDups := by
  obtain ⟨fields⟩ := r
  induction fields using List.reverseRecOn with
  | nil => rfl
  | append_singleton fields f ih =>
    have hlabels : (Report.mk (fields ++ [f])).labels = (Report.mk fields).labels ++ [f.label] := by
      simp [labels]
    rw [grouped_append_singleton, map_fst_setMessages, ih, hlabels, eraseDups_append_singleton]
    simp only [List.mem_eraseDups]

theorem lookup_grouped (r : Report) (l : Label) : r.grouped.lookup l = (r.last? l).map (·.messages) := by
  obtain ⟨fields⟩ := r
  induction fields using List.reverseRecOn with
  | nil => rfl
  | append_singleton fields f ih =>
    have hlast : (Report.mk (fields ++ [f])).last? l =
        if l = f.label then some f else (Report.mk fields).last? l := by
      by_cases hl : l = f.label
      · simp [last?, hl]
      · simp [last?, hl, Ne.symm hl]
    rw [grouped_append_singleton, lookup_setMessages, ih, hlast]
    split <;> rfl

/-- Every label stands where it comes first, with what the last field with it says. -/
theorem grouped_eq (r : Report) : r.grouped = r.labels.eraseDups.map fun l => (l, r.messagesOf l) := by
  have hn : (r.grouped.map (·.1)).Nodup := by
    rw [map_fst_grouped]
    exact nodup_eraseDups r.labels
  rw [eq_map_lookup [] hn, map_fst_grouped]
  simp only [lookup_grouped, messagesOf]

theorem map_fst_errors (r : Report) :
    r.errors.map (·.1) = r.labels.eraseDups.filter fun l => !(r.messagesOf l).isEmpty := by
  unfold errors
  rw [grouped_eq, List.filter_map, List.map_map]
  exact List.map_id _

theorem label_mem_labels {r : Report} {f : FieldChecks} (hf : f ∈ r.fields) : f.label ∈ r.labels :=
  List.mem_map_of_mem hf

theorem exists_last {r : Report} {f : FieldChecks} (hf : f ∈ r.fields) :
    ∃ g, r.last? f.label = some g ∧ g ∈ r.fields ∧ g.label = f.label := by
  have hsome : (r.last? f.label).isSome = true := by
    unfold last?
    rw [List.find?_isSome]
    exact ⟨f, List.mem_reverse.mpr hf, beq_self_eq_true _⟩
  obtain ⟨g, hg⟩ := Option.isSome_iff_exists.mp hsome
  exact ⟨g, hg, List.mem_reverse.mp (List.mem_of_find?_eq_some hg), by simpa using List.find?_some hg⟩

theorem mem_errors {r : Report} {f g : FieldChecks} (hf : f ∈ r.fields) (hg : r.last? f.label = some g)
    (hno : g.messages ≠ []) : (f.label, g.messages) ∈ r.errors := by
  unfold errors
  rw [grouped_eq, List.mem_filter, List.mem_map]
  refine ⟨⟨f.label, List.mem_eraseDups.mpr (label_mem_labels hf), ?_⟩, by simpa using hno⟩
  rw [messagesOf, hg]
  rfl

/-! ## Labels of failures -/

theorem messages_eq_nil_iff (f : FieldChecks) : f.messages = [] ↔ f.ok = true := by
  rw [FieldChecks.messages, List.map_eq_nil_iff, FieldChecks.failed_eq_nil_iff]

theorem failures_append_singleton (fields : List FieldChecks) (f : FieldChecks) :
    (Report.mk (fields ++ [f])).failures.map (·.label) =
      (Report.mk fields).failures.map (·.label) ++ List.replicate f.failed.length f.label := by
  simp [failures, Function.comp_def]

theorem eraseDups_failures (r : Report) : (r.failures.map (·.label)).eraseDups =
    ((r.fields.filter (!·.ok)).map (·.label)).eraseDups := by
  obtain ⟨fields⟩ := r
  induction fields using List.reverseRecOn with
  | nil => rfl
  | append_singleton fields f ih =>
    rw [failures_append_singleton, List.filter_append, List.map_append]
    cases hok : f.ok with
    | true =>
      rw [(FieldChecks.failed_eq_nil_iff f).mpr hok]
      simpa [hok] using ih
    | false =>
      obtain ⟨n, hn⟩ : ∃ n, f.failed.length = n + 1 := by
        apply Nat.exists_eq_succ_of_ne_zero
        rw [ne_eq, List.length_eq_zero_iff, FieldChecks.failed_eq_nil_iff, hok]
        exact Bool.false_ne_true
      have hmem : ∀ l, l ∈ (Report.mk fields).failures.map (·.label) ↔
          l ∈ (fields.filter (!·.ok)).map (·.label) := by
        intro l
        rw [← List.mem_eraseDups, ih, List.mem_eraseDups]
      have hlast : ([f].filter (!·.ok)).map (·.label) = [f.label] := by simp [hok]
      rw [hn, eraseDups_append_replicate, hlast, eraseDups_append_singleton, eraseDups_append_singleton, ih]
      simp only [hmem]

/-- Of the fields with one label, all fail or none does. -/
def LabelsAgree (r : Report) : Prop :=
  ∀ f ∈ r.fields, ∀ g ∈ r.fields, f.label = g.label → f.ok = g.ok

theorem labelsAgree_ofJson (values : List Json) : (ofJson values).LabelsAgree := by
  intro c hc d hd hlabel
  obtain ⟨i, hi⟩ := List.getElem?_of_mem hc
  obtain ⟨j, hj⟩ := List.getElem?_of_mem hd
  obtain ⟨v, hv, rfl⟩ := (ofJson_getElem?_iff values i c).mp hi
  obtain ⟨w, hw, rfl⟩ := (ofJson_getElem?_iff values j d).mp hj
  by_cases hij : i = j
  · subst hij
    rw [Option.some.inj (hv.symm.trans hw)]
  · -- two fields with one label have one key, which both then fail for
    obtain ⟨k, hkv, hkw⟩ : ∃ k, Check.itemKey? v = some k ∧ Check.itemKey? w = some k := by
      simp only [FieldChecks.label, Check.fieldChecks] at hlabel
      cases hkv : Check.itemKey? v <;> cases hkw : Check.itemKey? w <;> simp_all
    have hv' := (Check.unique_eq_false_iff hv).mpr ⟨k, hkv, j, w, Ne.symm hij, hw, hkw⟩
    have hw' := (Check.unique_eq_false_iff hw).mpr ⟨k, hkw, i, v, hij, hv, hkv⟩
    simp only [FieldChecks.ok, hv', hw', Bool.false_and]

section
variable {r : Report} (h : r.LabelsAgree)

include h

theorem messagesOf_eq_nil_iff {f : FieldChecks} (hf : f ∈ r.fields) :
    r.messagesOf f.label = [] ↔ f.ok = true := by
  obtain ⟨g, hlast, hg, hlabel⟩ := exists_last hf
  rw [messagesOf, hlast, h f hf g hg hlabel.symm]
  exact messages_eq_nil_iff g

theorem map_fst_errors_eq_failures : r.errors.map (·.1) = (r.failures.map (·.label)).eraseDups := by
  have hfails : ∀ f ∈ r.fields, (!(r.messagesOf f.label).isEmpty) = !f.ok := by
    intro f hf
    rw [Bool.eq_iff_iff, Bool.not_eq_true', Bool.not_eq_true', ← Bool.not_eq_true, ← Bool.not_eq_true,
      List.isEmpty_iff, messagesOf_eq_nil_iff h hf]
  rw [map_fst_errors, filter_eraseDups, eraseDups_failures, labels, List.filter_map]
  exact congrArg (fun fs => (fs.map (·.label)).eraseDups) (List.filter_congr hfails)

end

theorem errorsText_eq_empty_iff (r : Report) : r.errorsText = "" ↔ r.errors = [] := by
  unfold errorsText
  cases r.errors with
  | nil => exact iff_of_true rfl rfl
  | cons group groups => simp [String.join_cons, errorText]

theorem errors_eq_nil_iff {r : Report} (h : r.LabelsAgree) : r.errors = [] ↔ r.ok = true := by
  have hnil : ∀ xs : List Label, xs.eraseDups = [] ↔ xs = [] := by
    intro xs
    simp only [List.eq_nil_iff_forall_not_mem, List.mem_eraseDups]
  rw [← List.map_eq_nil_iff (f := (·.1)), map_fst_errors_eq_failures h, hnil, List.map_eq_nil_iff, ok,
    List.isEmpty_iff]

/-- The errors of a report on fields name every label of a failure once, in the order of the failures. So
there are none, and their text is empty, exactly if every field passes every check. A field that fails is
named under its label, with what the last field with this label fails. -/
theorem errors_name_failures (values : List Json) :
    ((ofJson values).errors.map (·.1)).Nodup ∧
    (ofJson values).errors.map (·.1) = ((ofJson values).failures.map (·.label)).eraseDups ∧
    ((ofJson values).ok = true ↔ ∀ f ∈ (ofJson values).fields, ∀ c, f.passed c = true) ∧
    ((ofJson values).ok = true ↔ (ofJson values).errors = []) ∧
    ((ofJson values).ok = true ↔ (ofJson values).errorsText = "") ∧
    (∀ f ∈ (ofJson values).fields, f.ok = false → ∃ g, (ofJson values).last? f.label = some g ∧
      g.messages ≠ [] ∧ (f.label, g.messages) ∈ (ofJson values).errors) := by
  have hagree := labelsAgree_ofJson values
  have hlabels := map_fst_errors_eq_failures hagree
  refine ⟨?nodup, hlabels, ?passed, (errors_eq_nil_iff hagree).symm, ?text, ?entry⟩
  case nodup =>
    rw [hlabels]
    exact nodup_eraseDups _
  case passed =>
    rw [ok_iff]
    simp only [FieldChecks.ok_iff_passed]
  case text => rw [errorsText_eq_empty_iff, errors_eq_nil_iff hagree]
  case entry =>
    intro f hf hfails
    obtain ⟨g, hlast, hg, hlabel⟩ := exists_last hf
    have hmessages : g.messages ≠ [] := by
      rw [ne_eq, messages_eq_nil_iff, ← hagree f hf g hg hlabel.symm, hfails]
      exact Bool.false_ne_true
    exact ⟨g, hlast, hmessages, mem_errors hf hlast hmessages⟩

end Report

end TableSchema
