import Mathlib.Data.List.InsertIdx
import TableSchema.Proofs.Collection.Edit

/-!
# Orders are positions

Every edit keeps the order of each field equal to its position, so what finds a field by its order finds it
by its position. `run_refines`: a run of edits on a collection is the run of the same edits on the list of
its entries, with the same answers.
-/

namespace TableSchema

/-- Every field holds its position as its order. -/
def Ordered (fields : List StoredField) : Prop :=
  ∀ (i : Nat) (f : StoredField), fields[i]? = some f → f.order = i

/-! ## Renumbering -/

theorem ordered_renumbered (fields : List StoredField) : Ordered (renumbered fields) := by
  intro i f hf
  unfold renumbered at hf
  rw [List.getElem?_mapIdx, Option.map_eq_some_iff] at hf
  obtain ⟨g, _, rfl⟩ := hf
  rfl

@[simp] theorem map_entry_renumbered (fields : List StoredField) :
    (renumbered fields).map (·.entry) = fields.map (·.entry) := by
  apply List.ext_getElem?
  intro i
  simp only [renumbered, List.getElem?_map, List.getElem?_mapIdx, Option.map_map]
  rfl

theorem ordered_append {fields : List StoredField} (h : Ordered fields) {f : StoredField}
    (hf : f.order = fields.length) : Ordered (fields ++ [f]) := by
  intro i g hg
  rcases Nat.lt_trichotomy i fields.length with hi | hi | hi
  · rw [List.getElem?_append_left hi] at hg
    exact h i g hg
  · subst hi
    simp only [List.getElem?_concat_length, Option.some.injEq] at hg
    rw [← hg, hf]
  · rw [List.getElem?_eq_none (by simp; omega)] at hg
    cases hg

/-! ## Finding by order -/

section
variable {fields : List StoredField} (h : Ordered fields)

include h

theorem order_getElem {i : Nat} (hi : i < fields.length) : fields[i].order = i :=
  h i fields[i] (List.getElem?_eq_getElem hi)

theorem findIdx?_order (k : Int) : fields.findIdx? (·.order == k) =
    if 0 ≤ k ∧ k < fields.length then some k.toNat else none := by
  split
  · next hk =>
    rw [List.findIdx?_eq_some_iff_getElem]
    refine ⟨by omega, ?_, ?_⟩
    · rw [beq_iff_eq, order_getElem h]
      omega
    · intro j hj
      rw [beq_iff_eq, order_getElem h]
      omega
  · next hk =>
    rw [List.findIdx?_eq_none_iff]
    intro f hf
    obtain ⟨i, hi, rfl⟩ := List.mem_iff_getElem.mp hf
    rw [beq_eq_false_iff_ne, order_getElem h]
    omega

theorem filter_order (k : Int) : fields.filter (·.order != k) =
    if 0 ≤ k ∧ k < fields.length then fields.eraseIdx k.toNat else fields := by
  have keep : ∀ i (hi : i < fields.length), (i : Int) ≠ k → (fields[i].order != k) = true := by
    intro i hi hne
    rw [bne_iff_ne, order_getElem h]
    exact hne
  split
  · next hk =>
    have hlt : k.toNat < fields.length := by omega
    have hdrop : (fields[k.toNat].order != k) = false := by
      rw [bne_eq_false_iff_eq, order_getElem h]
      omega
    rw [List.eraseIdx_eq_take_drop_succ]
    conv => lhs; rw [← List.take_append_drop k.toNat fields, List.drop_eq_getElem_cons hlt]
    rw [List.filter_append, List.filter_cons_of_neg (by simp [hdrop])]
    congr 1
    · rw [List.filter_eq_self]
      intro f hf
      obtain ⟨i, hi, rfl⟩ := List.mem_take_iff_getElem.mp hf
      exact keep i (by omega) (by omega)
    · rw [List.filter_eq_self]
      intro f hf
      obtain ⟨i, hi, rfl⟩ := List.mem_drop_iff_getElem.mp hf
      exact keep (k.toNat + 1 + i) (by omega) (by omega)
  · next hk =>
    rw [List.filter_eq_self]
    intro f hf
    obtain ⟨i, hi, rfl⟩ := List.mem_iff_getElem.mp hf
    exact keep i hi (by omega)

end

namespace Collection

def Ordered (c : Collection) : Prop :=
  TableSchema.Ordered c.fields

section
variable {c : Collection}

@[simp] theorem length_entries (c : Collection) : c.entries.length = c.fields.length :=
  List.length_map _

/-! ## Adding, removing and moving -/

theorem ordered_add (h : c.Ordered) (newId : String) (item : Descriptor) : (c.add newId item).Ordered :=
  ordered_append h rfl

@[simp] theorem entries_add (c : Collection) (newId : String) (item : Descriptor) :
    (c.add newId item).entries = c.entries ++ [⟨newId, none, item⟩] := by
  simp [entries, add, StoredField.entry]

theorem entries_remove (h : c.Ordered) (k : Int) : (c.remove k).entries = Entry.erased k c.entries := by
  unfold remove entries Entry.erased
  rw [map_entry_renumbered, filter_order h, List.length_map]
  split
  · rw [List.eraseIdx_map]
  · rfl

theorem entries_removeById (c : Collection) (id : String) :
    (c.removeById id).entries = c.entries.filter (·.id ≠ id) := by
  unfold removeById entries
  rw [map_entry_renumbered, List.filter_map]
  congr 1
  apply List.filter_congr
  intro f _
  rw [Bool.eq_iff_iff]
  simp [StoredField.entry]

theorem move_eq (h : c.Ordered) (source target : Int) : c.move source target =
    if hs : source ≠ target ∧ 0 ≤ source ∧ source < c.fields.length then
      { c with fields := renumbered ((c.fields.eraseIdx source.toNat).insertIdx
          (min target.toNat (c.fields.length - 1)) (c.fields.get ⟨source.toNat, by omega⟩)) }
    else c := by
  unfold move
  by_cases hst : source = target
  · simp [hst]
  · rw [if_neg hst, findIdx?_order h]
    by_cases hs : 0 ≤ source ∧ source < c.fields.length
    · have hlt : source.toNat < c.fields.length := by omega
      have hpos : (max 0 (min target (c.size - 1 : Int))).toNat = min target.toNat (c.fields.length - 1) := by
        unfold size
        omega
      rw [if_pos hs, dif_pos ⟨hst, hs⟩]
      simp only [List.getElem?_eq_getElem hlt, hpos]
      rfl
    · rw [if_neg hs, dif_neg fun hc => hs hc.2]

theorem ordered_move (h : c.Ordered) (source target : Int) : (c.move source target).Ordered := by
  rw [move_eq h]
  split
  · exact ordered_renumbered _
  · exact h

theorem moved_self (k : Int) (es : List Entry) : Entry.moved k k es = es := by
  unfold Entry.moved
  split
  · next hk =>
    have hlt : k.toNat < es.length := by omega
    have hmin : min k.toNat (es.length - 1) = k.toNat := by omega
    rw [hmin]
    exact List.insertIdx_eraseIdx_getElem hlt
  · rfl

theorem entries_move (h : c.Ordered) (source target : Int) :
    (c.move source target).entries = Entry.moved source target c.entries := by
  rw [move_eq h]
  by_cases hst : source = target
  · rw [dif_neg fun hc => hc.1 hst, hst, moved_self]
  · unfold Entry.moved
    by_cases hs : 0 ≤ source ∧ source < c.fields.length
    · rw [dif_pos ⟨hst, hs⟩, dif_pos (by simpa using hs)]
      simp only [entries, map_entry_renumbered, List.map_insertIdx, List.eraseIdx_map, List.length_map,
        List.get_eq_getElem, List.getElem_map]
    · rw [dif_neg fun hc => hs hc.2, dif_neg (by simpa using hs)]

/-! ## Copying -/

theorem withCopy_of_findIdx? (newId : String) {id : String} {es : List Entry} {i : Nat} {e : Entry}
    (hi : es.findIdx? (·.id == id) = some i) (he : es[i]? = some e) :
    Entry.withCopy newId id es = es.insertIdx (i + 1) (e.copy newId) := by
  induction es generalizing i with
  | nil => cases hi
  | cons x rest ih =>
    rw [List.findIdx?_cons] at hi
    unfold Entry.withCopy
    by_cases hx : x.id = id
    · simp only [hx, beq_self_eq_true, if_true, Option.some.injEq] at hi
      subst hi
      simp only [List.getElem?_cons_zero, Option.some.injEq] at he
      rw [if_pos hx, he]
      rfl
    · simp only [beq_false_of_ne hx, Bool.false_eq_true, if_false, Option.map_eq_some_iff] at hi
      obtain ⟨j, hj, rfl⟩ := hi
      rw [if_neg hx, ih hj (by simpa using he)]
      rfl

theorem withCopy_of_not_any (newId : String) {id : String} {es : List Entry}
    (h : es.any (·.id == id) = false) : Entry.withCopy newId id es = es := by
  induction es with
  | nil => rfl
  | cons x rest ih =>
    rw [List.any_cons, Bool.or_eq_false_iff, beq_eq_false_iff_ne] at h
    unfold Entry.withCopy
    rw [if_neg h.1, ih h.2]

theorem moved_last (es : List Entry) (e : Entry) {i : Nat} (hi : i ≤ es.length) :
    Entry.moved es.length i (es ++ [e]) = es.insertIdx i e := by
  have hlength : (es ++ [e]).length = es.length + 1 := List.length_append
  have hlast : (es ++ [e]).eraseIdx es.length = es := by
    rw [List.eraseIdx_append_of_length_le (Nat.le_refl _), Nat.sub_self]
    exact List.append_nil es
  have hmin : min i ((es ++ [e]).length - 1) = i := by omega
  unfold Entry.moved
  rw [dif_pos (by omega)]
  simp only [Int.toNat_natCast, hlast, hmin, List.get_eq_getElem, List.getElem_concat_length]

theorem findIdx?_entries (c : Collection) (id : String) :
    c.entries.findIdx? (·.id == id) = c.fields.findIdx? (·.id == id) :=
  List.findIdx?_map

theorem find?_entries (c : Collection) (id : String) :
    c.entries.find? (·.id == id) = (c.get? id).map (·.entry) :=
  List.find?_map

theorem any_entries (c : Collection) (id : String) :
    c.entries.any (·.id == id) = c.fields.any (·.id == id) :=
  List.any_map

theorem copy?_eq_none (newId : String) {id : String} (hid : c.entries.any (·.id == id) = false) :
    c.copy? newId id = none := by
  have hnone : c.fields.findIdx? (·.id == id) = none := by
    rw [List.findIdx?_eq_none_iff]
    rw [any_entries, List.any_eq_false] at hid
    exact fun f hf => Bool.eq_false_iff.mpr (hid f hf)
  unfold copy?
  rw [hnone]

theorem exists_first {id : String} (hid : c.entries.any (·.id == id) = true) :
    ∃ i f, c.fields.findIdx? (·.id == id) = some i ∧ c.fields[i]? = some f ∧ c.get? id = some f := by
  obtain ⟨i, hi⟩ : ∃ i, c.fields.findIdx? (·.id == id) = some i := by
    rw [← Option.isSome_iff_exists, List.findIdx?_isSome, ← any_entries]
    exact hid
  obtain ⟨hlt, hp, hfirst⟩ := List.findIdx?_eq_some_iff_getElem.mp hi
  refine ⟨i, c.fields[i], hi, List.getElem?_eq_getElem hlt, ?_⟩
  unfold get?
  rw [List.find?_eq_some_iff_getElem]
  refine ⟨hp, i, hlt, rfl, ?_⟩
  intro j hj
  simpa using hfirst j hj

theorem options_move (h : c.Ordered) (source target : Int) : (c.move source target).options = c.options := by
  rw [move_eq h]
  split
  · rfl
  · rfl

theorem copy?_eq_some (newId : String) {id : String} (h : c.Ordered) (hid : c.entries.any (·.id == id) = true) :
    ∃ c', c.copy? newId id = some c' ∧ c'.Ordered ∧ c'.options = c.options ∧
      c'.entries = Entry.withCopy newId id c.entries := by
  obtain ⟨i, f, hi, hf, hget⟩ := exists_first hid
  have hlt : i < c.fields.length := (List.getElem?_eq_some_iff.mp hf).1
  have hadd := ordered_add h newId { f.item with key := f.item.key ++ "-copy" }
  refine ⟨_, by unfold copy?; rw [hi, hget], ordered_move hadd _ _, options_move hadd _ _, ?_⟩
  have hfirst : c.entries.findIdx? (·.id == id) = some i := by rw [findIdx?_entries, hi]
  have hentry : c.entries[i]? = some f.entry := by
    unfold entries
    rw [List.getElem?_map, hf, Option.map_some]
  have hsize : c.size = c.entries.length := by rw [length_entries]; rfl
  rw [entries_move hadd, entries_add, withCopy_of_findIdx? newId hfirst hentry, hsize]
  exact moved_last _ _ (by simp; omega)

/-! ## Updating -/

section
variable {id : String} {f : StoredField → StoredField}

theorem map_updateFirst {β : Type} {g : StoredField → β} (hg : ∀ x, g (f x) = g x)
    (fields : List StoredField) : (updateFirst id f fields).map g = fields.map g := by
  induction fields with
  | nil => rfl
  | cons x rest ih =>
    unfold updateFirst
    by_cases hx : x.id = id
    · rw [if_pos hx, List.map_cons, List.map_cons, hg]
    · rw [if_neg hx, List.map_cons, List.map_cons, ih]

theorem entries_updateFirst {g : Entry → Entry} (hg : ∀ x, (f x).entry = g x.entry)
    (fields : List StoredField) :
    (updateFirst id f fields).map (·.entry) = Entry.modified id g (fields.map (·.entry)) := by
  unfold Entry.modified
  induction fields with
  | nil => rfl
  | cons x rest ih =>
    unfold updateFirst
    rw [List.map_cons, List.findIdx_cons]
    by_cases hx : x.id = id
    · have : (x.entry.id == id) = true := by simp [StoredField.entry, hx]
      rw [if_pos hx, this]
      simp [hg]
    · have : (x.entry.id == id) = false := by simp [StoredField.entry, hx]
      rw [if_neg hx, this, List.map_cons, ih]
      rfl

theorem ordered_of_map_order {fields fields' : List StoredField} (h : TableSchema.Ordered fields)
    (horders : fields'.map (·.order) = fields.map (·.order)) : TableSchema.Ordered fields' := by
  intro i f' hf'
  have hi := congrArg (·[i]?) horders
  simp only [List.getElem?_map, hf', Option.map_some] at hi
  obtain ⟨f, hf, horder⟩ := Option.map_eq_some_iff.mp hi.symm
  rw [← horder, h i f hf]

end

/-! ## Edits and runs -/

/-- A collection with what was answered stands for a list of entries with the same answers. -/
structure Shows {α : Type} (options : CollectionOptions) (r : Collection × α) (s : List Entry × α) :
    Prop where
  ordered : r.1.Ordered
  options : r.1.options = options
  entries : r.1.entries = s.1
  answer : r.2 = s.2

theorem shows_updateFirst (h : c.Ordered) {id : String} {f : StoredField → StoredField} {g : Entry → Entry}
    (horder : ∀ x, (f x).order = x.order) (hentry : ∀ x, (f x).entry = g x.entry) (answer : Answer) :
    Shows c.options ({ c with fields := updateFirst id f c.fields }, answer)
      (Entry.modified id g c.entries, answer) where
  ordered := ordered_of_map_order h (map_updateFirst horder c.fields)
  options := rfl
  entries := entries_updateFirst hentry c.fields
  answer := rfl

theorem edit_shows (h : c.Ordered) (e : Edit) : Shows c.options (c.edit e) (Entry.edit c.entries e) := by
  cases e with
  | add newId item => exact ⟨ordered_add h newId item, rfl, entries_add c newId item, rfl⟩
  | copy newId id =>
    simp only [edit, Entry.edit]
    cases hid : c.entries.any (·.id == id) with
    | false =>
      rw [copy?_eq_none newId hid]
      exact ⟨h, rfl, (withCopy_of_not_any newId hid).symm, rfl⟩
    | true =>
      obtain ⟨c', hc', hordered, hoptions, hentries⟩ := copy?_eq_some newId h hid
      rw [hc']
      exact ⟨hordered, hoptions, hentries, rfl⟩
  | remove order => exact ⟨ordered_renumbered _, rfl, entries_remove h order, rfl⟩
  | removeById id => exact ⟨ordered_renumbered _, rfl, entries_removeById c id, rfl⟩
  | updateKey id key =>
    simp only [edit, Entry.edit, updateKey, find?_entries]
    cases c.get? id with
    | none => exact ⟨h, rfl, rfl, rfl⟩
    | some f =>
      refine shows_updateFirst (g := Entry.withKey key) h ?_ ?_ _
      · exact fun _ => rfl
      · exact fun _ => rfl
  | updateSpecs id specs =>
    simp only [edit, Entry.edit, updateSpecs, find?_entries]
    cases c.get? id with
    | none => exact ⟨h, rfl, rfl, rfl⟩
    | some f =>
      have htype : f.entry.item.type = f.type := rfl
      simp only [Option.map_some, htype]
      by_cases hs : specs.type = f.type
      · rw [if_pos hs, if_pos hs]
        refine shows_updateFirst (g := Entry.withSpecs specs) h ?_ ?_ _
        · exact fun _ => rfl
        · exact fun _ => rfl
      · rw [if_neg hs, if_neg hs]
        exact ⟨h, rfl, rfl, rfl⟩
  | move source target => exact ⟨ordered_move h _ _, options_move h _ _, entries_move h _ _, rfl⟩

theorem run_shows (h : c.Ordered) (edits : List Edit) :
    Shows c.options (run edit c edits) (run Entry.edit c.entries edits) := by
  induction edits generalizing c with
  | nil => exact ⟨h, rfl, rfl, rfl⟩
  | cons e rest ih =>
    have hstep := edit_shows h e
    have hrest := ih hstep.ordered
    rw [hstep.options, hstep.entries] at hrest
    rw [run_cons, run_cons]
    exact ⟨hrest.ordered, hrest.options, hrest.entries, by rw [hstep.answer, hrest.answer]⟩

end

theorem ordered_ofFields (options : CollectionOptions) (fields : List StoredField) :
    (ofFields options fields).Ordered :=
  ordered_renumbered fields

/-- In every state that edits reach, the order of each field is its position, and the fields and answers
are those that the same edits have on a plain list. -/
theorem run_refines (options : CollectionOptions) (fields : List StoredField) (edits : List Edit) :
    (∀ (i : Nat) (f : StoredField), (run edit (ofFields options fields) edits).1.fields[i]? = some f →
      f.order = i) ∧
    (run edit (ofFields options fields) edits).1.entries =
      (run Entry.edit (fields.map (·.entry)) edits).1 ∧
    (run edit (ofFields options fields) edits).2 = (run Entry.edit (fields.map (·.entry)) edits).2 := by
  have h := run_shows (ordered_ofFields options fields) edits
  have hstart : (ofFields options fields).entries = fields.map (·.entry) := map_entry_renumbered fields
  rw [hstart] at h
  exact ⟨h.ordered, h.entries, h.answer⟩

end Collection

end TableSchema
