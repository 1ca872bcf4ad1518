import TableSchema.Rule.Predicate

/-!
# Record ids, one or many

A value is checked as a record id in two places, on its own and as an element of a list. `record_ids_agree`: a list
passes exactly if it is an array of what passes on its own where nothing may be missing, and that is the texts of
24 characters.
-/

namespace TableSchema

theorem isRecordId_iff (s : String) : isRecordId s = true ↔ s.toList.length = 24 := by
  unfold isRecordId recordIdLength
  rw [beq_iff_eq, String.length_toList]

namespace Predicate

/-! ## One id -/

theorem check_recordId_eq_pass_iff (allowEmpty : Bool) (v : Json) : (recordId allowEmpty).check v = .pass ↔
    allowEmpty = true ∧ (v = .null ∨ v = .string "") ∨ ∃ s : String, v = .string s ∧ s.toList.length = 24 := by
  cases v with
  | null => simp [check, checkRecordId, Outcome.require_eq_pass_iff]
  | string s =>
    simp only [check, checkRecordId, Outcome.require_eq_pass_iff, decide_eq_true_eq, isRecordId_iff]
    simp [and_comm]
  | _ => simp [check, checkRecordId]

theorem check_required_recordId_iff (v : Json) :
    (recordId false).check v = .pass ↔ ∃ s : String, v = .string s ∧ s.toList.length = 24 := by
  rw [check_recordId_eq_pass_iff]
  simp

/-! ## Lists of ids -/

theorem any_isRecordId_iff (v : Json) : v.string?.any isRecordId = true ↔ (recordId false).check v = .pass := by
  rw [check_required_recordId_iff]
  cases v with
  | string s => simp [Json.string?, isRecordId_iff]
  | _ => simp [Json.string?]

theorem check_recordIdList_array (ids : List Json) : recordIdList.check (.array ids) = .pass ↔
    ∀ id ∈ ids, (recordId false).check id = .pass := by
  have hcheck : recordIdList.check (.array ids) =
      .require (ids.all fun id => id.string?.any isRecordId) .invalidIds := rfl
  rw [hcheck, Outcome.require_eq_pass_iff, List.all_eq_true]
  simp only [any_isRecordId_iff]

theorem check_recordIdList_eq_pass_iff (v : Json) : recordIdList.check v = .pass ↔
    ∃ ids, v = .array ids ∧ ∀ id ∈ ids, (recordId false).check id = .pass := by
  cases v with
  | array ids =>
    rw [check_recordIdList_array]
    simp
  | _ => simp [check, checkRecordIdList, Json.array?, Outcome.require]

theorem check_recordIdList_cases (v : Json) :
    recordIdList.check v = .pass ∨ recordIdList.check v = .reject .invalidIds :=
  Outcome.require_cases _ _

theorem check_recordIdList_of_mem {ids : List Json} {id : Json} (hmem : id ∈ ids)
    (hid : (recordId false).check id ≠ .pass) : recordIdList.check (.array ids) = .reject .invalidIds := by
  have hlist : recordIdList.check (.array ids) ≠ .pass := by
    rw [ne_eq, check_recordIdList_array]
    intro hall
    exact hid (hall id hmem)
  exact (check_recordIdList_cases _).resolve_left hlist

theorem check_recordIdList_append (ids more : List Json) : recordIdList.check (.array (ids ++ more)) = .pass ↔
    recordIdList.check (.array ids) = .pass ∧ recordIdList.check (.array more) = .pass := by
  simp only [check_recordIdList_array, List.forall_mem_append]

/-- A value passes on its own, where it may not be missing, exactly if it is a text of 24 characters. It passes as
a list exactly if it is an array whose elements all pass on their own, and else the ids are invalid. A value that
does not pass makes every array invalid into which it is put, at whatever place. Two arrays put together pass
exactly if both of them do. -/
theorem record_ids_agree (v : Json) :
    ((recordId false).check v = .pass ↔ ∃ s : String, v = .string s ∧ s.toList.length = 24) ∧
    (recordIdList.check v = .pass ↔ ∃ ids, v = .array ids ∧ ∀ id ∈ ids, (recordId false).check id = .pass) ∧
    (recordIdList.check v = .pass ∨ recordIdList.check v = .reject .invalidIds) ∧
    (∀ (ids : List Json) (i : Nat), i ≤ ids.length → (recordId false).check v ≠ .pass →
      recordIdList.check (.array (ids.insertIdx i v)) = .reject .invalidIds) ∧
    (∀ ids more, recordIdList.check (.array (ids ++ more)) = .pass ↔
      recordIdList.check (.array ids) = .pass ∧ recordIdList.check (.array more) = .pass) := by
  refine ⟨check_required_recordId_iff v, check_recordIdList_eq_pass_iff v, check_recordIdList_cases v, ?_,
    check_recordIdList_append⟩
  intro ids i hi hv
  have hmem : v ∈ ids.insertIdx i v := (List.mem_insertIdx hi).mpr (Or.inl rfl)
  exact check_recordIdList_of_mem hmem hv

/-- The 24 letters of the Greek alphabet are an id; half of them take 24 bytes and are none. -/
theorem record_ids_agree_greek :
    recordIdList.check (.array [.string "αβγδεζηθικλμνξοπρστυφχψω"]) = .pass ∧
    "αβγδεζηθικλμ".utf8ByteSize = 24 ∧ (recordId false).check (.string "αβγδεζηθικλμ") ≠ .pass ∧
    recordIdList.check (.array ([.string "αβγδεζηθικλμνξοπρστυφχψω"].insertIdx 1 (.string "αβγδεζηθικλμ"))) =
      .reject .invalidIds := by
  have hwhole : recordIdList.check (.array [.string "αβγδεζηθικλμνξοπρστυφχψω"]) = .pass := by decide
  have hhalf : (recordId false).check (.string "αβγδεζηθικλμ") ≠ .pass := by decide
  obtain ⟨_, _, _, hinsert, _⟩ := record_ids_agree (.string "αβγδεζηθικλμ")
  exact ⟨hwhole, by decide, hhalf, hinsert _ 1 (by decide) hhalf⟩

end Predicate

end TableSchema
