import TableSchema.Proofs.Check.Agreement
import TableSchema.Proofs.StoredForm

/-!
# Compiling stored fields

`compileJson_toJson_iff` says when fields compile from their stored form to the rules that they have
themselves: when all date bounds can be stored, and those that make it into the table are whole
milliseconds.
-/

namespace TableSchema

/-! ## Rules of cut bounds -/

theorem map_cut_eq_self_iff (t : Option Instant) :
    t.map Instant.cut = t ↔ ∀ u ∈ t.toList, u.cut = u := by
  cases t with
  | none => simp
  | some u => simp

namespace Specs

def WholeMillis (s : Specs) : Prop :=
  ∀ t ∈ s.dateBounds, t.cut = t

theorem cut_of_wholeMillis {s : Specs} (h : s.WholeMillis) : s.cut = s := by
  cases s with
  | date s =>
    have hmin : s.min.map Instant.cut = s.min :=
      (map_cut_eq_self_iff s.min).mpr fun t ht => h t (List.mem_append_left _ ht)
    have hmax : s.max.map Instant.cut = s.max :=
      (map_cut_eq_self_iff s.max).mpr fun t ht => h t (List.mem_append_right _ ht)
    unfold cut
    simp only
    rw [hmin, hmax]
  | _ => rfl

theorem custom_date (o : CompileOptions) (s : DateSpecs) : ((date s).rules o).custom =
    Compile.provided (s.min.isSome || s.max.isSome) (.dateRange s.min s.max) :=
  RuleSet.custom_ofRules _ _

theorem rules_cut_iff (o : CompileOptions) (s : Specs) : s.cut.rules o = s.rules o ↔ s.WholeMillis := by
  apply Iff.intro
  · intro h
    cases s with
    | date s =>
      have hcustom := congrArg RuleSet.custom h
      unfold cut at hcustom
      simp only [custom_date, Option.isSome_map] at hcustom
      by_cases hset : (s.min.isSome || s.max.isSome) = true
      · unfold Compile.provided at hcustom
        rw [if_pos hset, if_pos hset] at hcustom
        have hbounds := Predicate.dateRange.inj (Option.some.inj hcustom)
        intro t ht
        rcases List.mem_append.mp ht with ht | ht
        · exact (map_cut_eq_self_iff s.min).mp hbounds.1 t ht
        · exact (map_cut_eq_self_iff s.max).mp hbounds.2 t ht
      · intro t ht
        rw [Bool.or_eq_true] at hset
        rcases List.mem_append.mp ht with ht | ht
        · exact absurd (Or.inl (by simp [Option.mem_toList.mp ht])) hset
        · exact absurd (Or.inr (by simp [Option.mem_toList.mp ht])) hset
    | _ =>
      intro t ht
      cases ht
  · intro h
    rw [cut_of_wholeMillis h]

end Specs

/-! ## Tables of cut fields -/

theorem lastWithKey?_cut (fields : List StoredField) (key : String) :
    lastWithKey? (fields.map StoredField.cut) key = (lastWithKey? fields key).map StoredField.cut := by
  unfold lastWithKey?
  rw [← List.map_reverse, List.find?_map]
  rfl

/-- The field counts: no later one has its key. -/
def Counts (fields : List StoredField) (f : StoredField) : Prop :=
  lastWithKey? fields f.key = some f

theorem counts_of_lastWithKey? {fields : List StoredField} {key : String} {f : StoredField}
    (h : lastWithKey? fields key = some f) : f.key = key ∧ Counts fields f := by
  have hkey : f.key = key := by
    have := List.find?_some h
    simpa using this
  unfold Counts
  rw [hkey]
  exact ⟨rfl, h⟩

theorem compile_cut_iff (o : CompileOptions) (fields : List StoredField) :
    compile o (fields.map StoredField.cut) = compile o fields ↔
      ∀ f, Counts fields f → f.item.specs.WholeMillis := by
  have hkeys : (fields.map StoredField.cut).map (·.key) = fields.map (·.key) := by
    rw [List.map_map]
    rfl
  apply Iff.intro
  · intro h f hf
    have hrow := congrArg (fun t => List.lookup f.key t) h
    simp only [lookup_compile, lastWithKey?_cut] at hrow
    rw [hf] at hrow
    exact (Specs.rules_cut_iff o f.item.specs).mp (Option.some.inj hrow)
  · intro h
    unfold compile
    rw [hkeys]
    apply List.filterMap_congr
    intro key _
    rw [lastWithKey?_cut]
    cases hlast : lastWithKey? fields key with
    | none => rfl
    | some f =>
      have hcut : f.item.specs.cut.rules o = f.item.specs.rules o :=
        (Specs.rules_cut_iff o f.item.specs).mpr (h f (counts_of_lastWithKey? hlast).2)
      simp only [Option.map_some]
      rw [← hcut]
      rfl

/-! ## Reading and compiling stored fields -/

section
variable {fields : List StoredField} (hs : ∀ f ∈ fields, f.Sound)

include hs

theorem map_ofJson_toJson (hw : ∀ f ∈ fields, f.Storable) :
    (fields.map (·.toJson)).map StoredField.ofJson = (fields.map StoredField.cut).map .ok := by
  rw [List.map_map, List.map_map]
  apply List.map_congr_left
  intro f hf
  exact StoredField.ofJson_toJson (hs f hf) (hw f hf)

theorem compileJson_toJson (o : CompileOptions) (hw : ∀ f ∈ fields, f.Storable) :
    compileJson o (.array (fields.map (·.toJson))) = .ok (compile o (fields.map StoredField.cut)) :=
  (compileJson_eq_ok_iff o _ _).mpr ⟨_, map_ofJson_toJson hs hw, rfl⟩

theorem storable_of_compileJson {o : CompileOptions} {t : RuleTable}
    (h : compileJson o (.array (fields.map (·.toJson))) = .ok t) : ∀ f ∈ fields, f.Storable := by
  obtain ⟨read, hread, _⟩ := (compileJson_eq_ok_iff o _ _).mp h
  intro f hf
  obtain ⟨g, _, hg⟩ := read_of_mem hread (List.mem_map_of_mem hf)
  exact (StoredField.ofJson_toJson_ok_iff (hs f hf)).mp ⟨g, hg⟩

end

/-- Fields with created descriptors compile from their stored form to what they compile to themselves
exactly if all their date bounds can be stored, and the bounds of the fields that count are whole
milliseconds. They compile at all if their bounds can be stored, to the rules of the cut bounds. -/
theorem compileJson_toJson_iff (o : CompileOptions) {fields : List StoredField}
    (hcreated : ∀ f ∈ fields,
      ∃ key tag settings, Descriptor.create key tag settings = .ok f.item)
    (horder : ∀ f ∈ fields, OrderFits f.order) :
    (compileJson o (.array (fields.map (·.toJson))) = .ok (compile o fields) ↔
      (∀ f ∈ fields, f.Storable) ∧ ∀ f, Counts fields f → f.item.specs.WholeMillis) ∧
    ((∃ t, compileJson o (.array (fields.map (·.toJson))) = .ok t) ↔ ∀ f ∈ fields, f.Storable) ∧
    ((∀ f ∈ fields, f.Storable) → compileJson o (.array (fields.map (·.toJson))) =
      .ok (compile o (fields.map StoredField.cut))) := by
  have hs : ∀ f ∈ fields, f.Sound := by
    intro f hf
    obtain ⟨key, tag, settings, hc⟩ := hcreated f hf
    exact ⟨Descriptor.sound_of_create hc, horder f hf⟩
  refine ⟨?_, ?_, compileJson_toJson hs o⟩
  · apply Iff.intro
    · intro h
      have hw := storable_of_compileJson hs h
      rw [compileJson_toJson hs o hw, Except.ok.injEq, compile_cut_iff] at h
      exact ⟨hw, h⟩
    · intro h
      rw [compileJson_toJson hs o h.1, (compile_cut_iff o fields).mpr h.2]
  · apply Iff.intro
    · intro h
      obtain ⟨t, ht⟩ := h
      exact storable_of_compileJson hs ht
    · intro hw
      exact ⟨_, compileJson_toJson hs o hw⟩

theorem compileJson_of_due_2020 :
    (∀ f ∈ [StoredField.dueFrom (.ofDay 18262)],
      ∃ key tag settings, Descriptor.create key tag settings = .ok f.item) ∧
    (∀ f ∈ [StoredField.dueFrom (.ofDay 18262)], OrderFits f.order) ∧
    (compileJson {} (.array [(StoredField.dueFrom (.ofDay 18262)).toJson]) =
        .ok (compile {} [.dueFrom (.ofDay 18262)]) ↔
      (∀ f ∈ [StoredField.dueFrom (.ofDay 18262)], f.Storable) ∧
        ∀ f, Counts [.dueFrom (.ofDay 18262)] f → f.item.specs.WholeMillis) := by
  have hcreated : ∀ f ∈ [StoredField.dueFrom (.ofDay 18262)],
      ∃ key tag settings, Descriptor.create key tag settings = .ok f.item := by
    intro f hf
    rw [List.mem_singleton.mp hf]
    exact ⟨"due", "date", .object [("min", .string "2020-01-01")], by decide +kernel⟩
  have horder : ∀ f ∈ [StoredField.dueFrom (.ofDay 18262)], OrderFits f.order := by
    intro f hf
    rw [List.mem_singleton.mp hf]
    decide
  exact ⟨hcreated, horder, (compileJson_toJson_iff {} hcreated horder).1⟩

def halfMilli : Instant :=
  ⟨1577836800, 500000, by decide⟩

/-- A bound in the year 10000 cannot be read from its stored form; a bound with half a millisecond is read
as another one. -/
theorem stored_due_differs :
    (Descriptor.create "due" "date" (.object [("min", .string "+10000-01-01")]) =
        .ok (StoredField.dueFrom (.ofDay 2932897)).item ∧
      ∀ t, compileJson {} (.array [(StoredField.dueFrom (.ofDay 2932897)).toJson]) ≠ .ok t) ∧
    Descriptor.create "due" "date" (.object [("min", .string "2020-01-01T00:00:00.0005Z")]) =
        .ok (StoredField.dueFrom halfMilli).item ∧
      compileJson {} (.array [(StoredField.dueFrom halfMilli).toJson]) ≠
        .ok (compile {} [.dueFrom halfMilli]) := by
  refine ⟨⟨by decide +kernel, ?_⟩, by decide +kernel, ?_⟩
  · intro t ht
    have hnone : (compileJson {} (.array [(StoredField.dueFrom (.ofDay 2932897)).toJson])).toOption.isNone =
        true := by decide +kernel
    rw [ht] at hnone
    cases hnone
  · intro h
    have hs : ∀ f ∈ [StoredField.dueFrom halfMilli], f.Sound := by
      intro f hf
      rw [List.mem_singleton.mp hf]
      exact ⟨List.forall_mem_singleton.mpr (by decide), by decide⟩
    have hw : ∀ f ∈ [StoredField.dueFrom halfMilli], f.Storable := by
      intro f hf t ht
      rw [List.mem_singleton.mp hf] at ht
      rw [List.mem_singleton.mp ht]
      decide
    have hread := compileJson_toJson hs {} hw
    have hwhole := (compile_cut_iff {} _).mp (Except.ok.inj (hread.symm.trans h))
    have hcut := hwhole (.dueFrom halfMilli) rfl halfMilli (List.mem_singleton_self _)
    exact absurd hcut (by decide)

/-- A lower bound that is no whole millisecond rejects its own stored form, which the bound as it is
stored admits. -/
theorem stored_min_admits_more {t : Instant} (hregular : t.Regular) (hy : t.FourDigitYear) (hc : t.cut ≠ t)
    (max : Option Instant) :
    (Predicate.dateRange (some t) max).check t.specsJson = .reject .dateOutOfRange ∧
    (Predicate.dateRange (some t.cut) none).check t.specsJson = .pass := by
  have hread : Instant.ofJson? t.specsJson = some t.cut := by
    rw [ofJson?_specsJson, if_pos hy, Instant.shown_of_regular hregular]
  have hnull : t.specsJson.isNull = false := rfl
  have hnanos := mt t.cut_eq_self_iff.mpr hc
  have hafter : t.notAfter t.cut = false := by
    unfold Instant.notAfter Instant.cut
    simp
    omega
  have hsame : t.cut.notAfter t.cut = true := by simp [Instant.notAfter]
  unfold Predicate.check Predicate.checkDateRange
  simp [hread, hnull, hafter, hsame, Outcome.require]

end TableSchema
