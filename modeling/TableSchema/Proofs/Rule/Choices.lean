import TableSchema.Proofs.Repetitions
import TableSchema.Proofs.Rule.Emptiness

/-!
# The values of a choice

A choice offers the values that its specs list, each once and in the order in which they come first. Only the
empty text can be among them without being listed, or be listed without being among them.
`select_choices`: what is offered, when there is a list at all, and that it compiles to itself.
-/

namespace TableSchema

namespace Compile

/-! ## Distinct values -/

theorem distinct_append_singleton (values : List String) (v : String) :
    distinct (values ++ [v]) = if v ∈ distinct values then distinct values else distinct values ++ [v] := by
  simp [distinct]

theorem distinct_eq_eraseDups (values : List String) : distinct values = values.eraseDups := by
  induction values using List.reverseRecOn with
  | nil => rfl
  | append_singleton values v ih =>
    rw [distinct_append_singleton, ih, eraseDups_append_singleton]
    simp only [List.mem_eraseDups]

/-! ## Single choices -/

theorem singleChoice_new {values : List String} (h : "" ∉ values) : singleChoice true values = values ++ [""] := by
  simp [singleChoice, h]

theorem singleChoice_listed {values : List String} (h : "" ∈ values) : singleChoice true values = values := by
  simp [singleChoice, h]

theorem pairwise_idxOf_singleChoice (mayBeEmpty : Bool) (values : List String) :
    (singleChoice mayBeEmpty values.eraseDups).Pairwise fun v w => values.idxOf v < values.idxOf w := by
  have hlisted := pairwise_idxOf_eraseDups values
  cases mayBeEmpty with
  | false => exact hlisted.filter _
  | true =>
    by_cases hempty : "" ∈ values
    · rw [singleChoice_listed (List.mem_eraseDups.mpr hempty)]
      exact hlisted
    · rw [singleChoice_new (mt List.mem_eraseDups.mp hempty)]
      refine List.pairwise_append.mpr ⟨hlisted, List.pairwise_singleton _ _, ?_⟩
      intro v hv w hw
      rw [List.mem_singleton.mp hw, List.idxOf_eq_length hempty]
      exact List.idxOf_lt_length_of_mem (List.mem_eraseDups.mp hv)

theorem singleChoice_self (mayBeEmpty : Bool) (values : List String) :
    singleChoice mayBeEmpty (singleChoice mayBeEmpty values) = singleChoice mayBeEmpty values := by
  cases mayBeEmpty with
  | false => simp [singleChoice]
  | true => exact singleChoice_listed ((mem_singleChoice true values "").mpr (Or.inr rfl))

/-! ## Rules of a choice -/

section
variable {s : SelectSpecs}

theorem oneOf_single (h : s.multiple = false) :
    (selectRules s).oneOf = some (singleChoice s.mayBeEmpty s.allowedValues.eraseDups) := by
  simp [selectRules, h, RuleSet.oneOf_ofRules, distinct_eq_eraseDups]

theorem oneOf_multiple (h : s.multiple = true) :
    (selectRules s).oneOf = provided (!s.allowedValues.isEmpty) s.allowedValues.eraseDups := by
  have hempty : s.allowedValues.eraseDups.isEmpty = s.allowedValues.isEmpty := by
    rw [Bool.eq_iff_iff, List.isEmpty_iff, List.isEmpty_iff, List.eq_nil_iff_forall_not_mem,
      List.eq_nil_iff_forall_not_mem]
    simp only [List.mem_eraseDups]
  simp [selectRules, h, RuleSet.oneOf_ofRules, distinct_eq_eraseDups, hempty]

theorem pairwise_idxOf_oneOf {values : List String} (h : (selectRules s).oneOf = some values) :
    values.Pairwise fun v w => s.allowedValues.idxOf v < s.allowedValues.idxOf w := by
  cases hmultiple : s.multiple with
  | false =>
    rw [oneOf_single hmultiple, Option.some.injEq] at h
    rw [← h]
    exact pairwise_idxOf_singleChoice s.mayBeEmpty s.allowedValues
  | true =>
    rw [oneOf_multiple hmultiple] at h
    rw [of_provided h]
    exact pairwise_idxOf_eraseDups s.allowedValues

theorem selectRules_self {values : List String} (h : (selectRules s).oneOf = some values) :
    selectRules { s with allowedValues := values } = selectRules s := by
  have hn := nodup_of_pairwise_idxOf (pairwise_idxOf_oneOf h)
  have hdistinct : distinct values = values := (distinct_eq_eraseDups values).trans (eraseDups_of_nodup hn)
  cases hmultiple : s.multiple with
  | false =>
    rw [oneOf_single hmultiple, ← distinct_eq_eraseDups, Option.some.injEq] at h
    have hself := singleChoice_self s.mayBeEmpty (distinct s.allowedValues)
    rw [h] at hself
    simp [selectRules, hmultiple, hdistinct, hself, h]
  | true =>
    rw [oneOf_multiple hmultiple, ← distinct_eq_eraseDups] at h
    rw [of_provided h] at hdistinct ⊢
    simp [selectRules, hmultiple, hdistinct]

end

end Compile

/-- What a choice offers has no repetitions and stands in the order in which the specs list it first; a value
that they do not list is last. Compiling it again gives the same rules. A single choice always has such a list:
the values of the specs and the empty text if a value may be empty, and the values of the specs other than the
empty text if it may not. A multiple choice offers the values of the specs, if there are any. -/
theorem Specs.select_choices (o : CompileOptions) (s : SelectSpecs) :
    (∀ values, ((select s).rules o).oneOf = some values →
      values.Nodup ∧ values.Pairwise (fun v w => s.allowedValues.idxOf v < s.allowedValues.idxOf w) ∧
      (select { s with allowedValues := values }).rules o = (select s).rules o) ∧
    (s.multiple = false → ∃ values, ((select s).rules o).oneOf = some values ∧
      (s.mayBeEmpty = true → (∀ v, v ∈ values ↔ v ∈ s.allowedValues ∨ v = "") ∧
        ("" ∉ s.allowedValues → values.getLast? = some "")) ∧
      (s.mayBeEmpty = false → ∀ v, v ∈ values ↔ v ∈ s.allowedValues ∧ v ≠ "")) ∧
    (s.multiple = true →
      (((select s).rules o).oneOf = none ↔ s.allowedValues = []) ∧
      ∀ values, ((select s).rules o).oneOf = some values → ∀ v, v ∈ values ↔ v ∈ s.allowedValues) := by
  have hrules : ∀ s, (select s).rules o = Compile.selectRules s := fun _ => rfl
  simp only [hrules]
  refine ⟨?offered, ?single, ?multiple⟩
  case offered =>
    intro values h
    have horder := Compile.pairwise_idxOf_oneOf h
    exact ⟨nodup_of_pairwise_idxOf horder, horder, Compile.selectRules_self h⟩
  case single =>
    intro hmultiple
    refine ⟨_, Compile.oneOf_single hmultiple, ?_, ?_⟩
    · intro hempty
      rw [hempty]
      refine ⟨fun v => by simp [Compile.mem_singleChoice], ?_⟩
      intro hno
      rw [Compile.singleChoice_new (mt List.mem_eraseDups.mp hno)]
      exact List.getLast?_concat
    · intro hempty v
      simp [hempty, Compile.mem_singleChoice]
  case multiple =>
    intro hmultiple
    rw [Compile.oneOf_multiple hmultiple]
    refine ⟨?_, ?_⟩
    · cases s.allowedValues <;> simp [Compile.provided]
    · intro values h v
      rw [Compile.of_provided h, List.mem_eraseDups]

example : ((Specs.select { allowedValues := ["b", "a", "b"] }).rules {}).oneOf = some ["b", "a", ""] := by decide

end TableSchema
