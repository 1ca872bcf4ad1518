import Mathlib.Data.List.Perm.Basic
import TableSchema.Proofs.Collection.Order
import TableSchema.Proofs.Repetitions

/-!
# A field keeps its identity

An id stands for one field for as long as it is in the collection. `run_keeps_identity`: while the ids that
are given out are new, ids stay distinct in every state, and a field that stays keeps its type, its title
and its `isAuto`; its key and its specs change only where they are updated under its id.
-/

namespace TableSchema

def Answer.newId? : Answer → Option String
  | .ok id => id
  | .error _ => none

namespace Entry

def ids (es : List Entry) : List String :=
  es.map (·.id)

/-- What edits with their answers can have made of an entry that was there all the time. -/
structure Kept (e e' : Entry) (done : List (Edit × Answer)) : Prop where
  id : e'.id = e.id
  isAuto : e'.isAuto = e.isAuto
  title : e'.item.title = e.item.title
  type : e'.item.type = e.item.type
  key : e'.item.key = e.item.key ∨ (.updateKey e.id e'.item.key, .ok none) ∈ done
  specs : e'.item.specs = e.item.specs ∨ (.updateSpecs e.id e'.item.specs, .ok none) ∈ done

theorem Kept.refl (e : Entry) (done : List (Edit × Answer)) : Kept e e done where
  id := rfl
  isAuto := rfl
  title := rfl
  type := rfl
  key := Or.inl rfl
  specs := Or.inl rfl

theorem Kept.trans {e e' e'' : Entry} {done done' : List (Edit × Answer)} (h : Kept e e' done)
    (h' : Kept e' e'' done') : Kept e e'' (done ++ done') where
  id := h'.id.trans h.id
  isAuto := h'.isAuto.trans h.isAuto
  title := h'.title.trans h.title
  type := h'.type.trans h.type
  key := by
    rcases h'.key with hsame | hset
    · rw [hsame]
      exact h.key.imp_right (List.mem_append_left done')
    · rw [h.id] at hset
      exact Or.inr (List.mem_append_right done hset)
  specs := by
    rcases h'.specs with hsame | hset
    · rw [hsame]
      exact h.specs.imp_right (List.mem_append_left done')
    · rw [h.id] at hset
      exact Or.inr (List.mem_append_right done hset)

/-- All that one edit can do to a list: a new entry, another order, fewer entries, or changed ones. -/
inductive Effect (es es' : List Entry) (done : Edit × Answer) : Prop where
  | grown (e : Entry) (hanswer : done.2 = .ok (some e.id)) (hperm : es'.Perm (e :: es))
  | rearranged (hperm : es'.Perm es)
  | reduced (hsub : es'.Sublist es)
  | changed (g : Entry → Entry) (hmap : es' = es.map g) (hkept : ∀ e ∈ es, Kept e (g e) [done])

/-! ## Orders and parts of a list -/

theorem insertIdx_eraseIdx_perm {α : Type} {xs : List α} {i k : Nat} (hi : i < xs.length)
    (hk : k ≤ xs.length - 1) : ((xs.eraseIdx i).insertIdx k xs[i]).Perm xs := by
  rw [← List.length_eraseIdx_of_lt hi] at hk
  exact (List.perm_insertIdx xs[i] _ hk).trans (List.getElem_cons_eraseIdx_perm hi)

theorem moved_perm (source target : Int) (es : List Entry) : (moved source target es).Perm es := by
  unfold moved
  split
  · exact insertIdx_eraseIdx_perm (by omega) (by omega)
  · exact List.Perm.refl es

theorem withCopy_perm (newId : String) {id : String} {es : List Entry} (h : es.any (·.id == id) = true) :
    ∃ e ∈ es, (withCopy newId id es).Perm (e.copy newId :: es) := by
  obtain ⟨i, hi⟩ : ∃ i, es.findIdx? (·.id == id) = some i := by
    rw [← Option.isSome_iff_exists, List.findIdx?_isSome]
    exact h
  obtain ⟨hlt, _, _⟩ := List.findIdx?_eq_some_iff_getElem.mp hi
  refine ⟨es[i], List.getElem_mem hlt, ?_⟩
  rw [Collection.withCopy_of_findIdx? newId hi (List.getElem?_eq_getElem hlt)]
  exact List.perm_insertIdx _ _ hlt

theorem erased_sublist (k : Int) (es : List Entry) : (erased k es).Sublist es := by
  unfold erased
  split
  · exact List.eraseIdx_sublist es _
  · exact List.Sublist.refl es

section
variable {es : List Entry} (hn : (ids es).Nodup)

include hn

theorem modified_eq_map (id : String) (f : Entry → Entry) :
    modified id f es = es.map fun e => if e.id = id then f e else e := by
  unfold modified
  induction es with
  | nil => rfl
  | cons x rest ih =>
    obtain ⟨hx, hrest⟩ := List.nodup_cons.mp hn
    rw [List.findIdx_cons, List.map_cons]
    by_cases hid : x.id = id
    · -- only the first entry with the id is changed, and no further one has it
      have hmap : ∀ e ∈ rest, (if e.id = id then f e else e) = e := by
        intro e he
        have hne : e.id ≠ id := fun heq => hx (List.mem_map.mpr ⟨e, he, heq.trans hid.symm⟩)
        rw [if_neg hne]
      rw [List.map_congr_left hmap, List.map_id', if_pos hid, hid, beq_self_eq_true]
      rfl
    · rw [if_neg hid, beq_false_of_ne hid, ← ih hrest]
      rfl

theorem mem_of_sublist {es' : List Entry} (h : es'.Sublist es) {e : Entry} (he : e ∈ es)
    (hid : e.id ∈ ids es') : e ∈ es' := by
  obtain ⟨e', he', heq⟩ := List.mem_map.mp hid
  rw [← List.inj_on_of_nodup_map hn (h.subset he') he heq]
  exact he'

/-! ## One edit -/

theorem effect_edit (ed : Edit) : Effect es (edit es ed).1 (ed, (edit es ed).2) := by
  cases ed with
  | add newId item => exact .grown ⟨newId, none, item⟩ rfl (List.perm_append_singleton _ es)
  | copy newId id =>
    cases hid : es.any (·.id == id) with
    | true =>
      obtain ⟨e, _, hperm⟩ := withCopy_perm newId hid
      exact .grown (e.copy newId) (by simp [edit, hid, copy]) hperm
    | false => exact .rearranged (List.Perm.of_eq (Collection.withCopy_of_not_any newId hid))
  | remove order => exact .reduced (erased_sublist order es)
  | removeById id => exact .reduced List.filter_sublist
  | updateKey id key =>
    cases hfind : es.find? (·.id == id) with
    | none => exact .rearranged (List.Perm.of_eq (by simp [edit, hfind]))
    | some first =>
      simp only [edit, hfind]
      refine .changed _ (modified_eq_map hn id (withKey key)) ?_
      intro e _
      by_cases hid : e.id = id
      · rw [if_pos hid, ← hid]
        exact ⟨rfl, rfl, rfl, rfl, Or.inr (List.mem_singleton_self _), Or.inl rfl⟩
      · rw [if_neg hid]
        exact Kept.refl e _
  | updateSpecs id specs =>
    cases hfind : es.find? (·.id == id) with
    | none => exact .rearranged (List.Perm.of_eq (by simp [edit, hfind]))
    | some first =>
      by_cases hs : specs.type = first.item.type
      · simp only [edit, hfind, if_pos hs]
        refine .changed _ (modified_eq_map hn id (withSpecs specs)) ?_
        intro e he
        by_cases hid : e.id = id
        · -- the only entry with this id is the one whose type was compared
          have hfirst : first = e := Option.some.inj (hfind.symm.trans ((find?_key_iff hn).mpr ⟨he, hid⟩))
          rw [if_pos hid, ← hid]
          exact ⟨rfl, rfl, rfl, hfirst ▸ hs, Or.inl rfl, Or.inr (List.mem_singleton_self _)⟩
        · rw [if_neg hid]
          exact Kept.refl e _
      · exact .rearranged (List.Perm.of_eq (by simp [edit, hfind, hs]))
  | move source target => exact .rearranged (moved_perm source target es)

theorem Effect.nodup {es' : List Entry} {done : Edit × Answer} (h : Effect es es' done)
    (hnew : ∀ newId ∈ Answer.newId? done.2, newId ∉ ids es) : (ids es').Nodup := by
  cases h with
  | grown e hanswer hperm =>
    have hfresh : e.id ∉ ids es := hnew e.id (by rw [hanswer]; rfl)
    exact (hperm.map Entry.id).nodup_iff.mpr (List.nodup_cons.mpr ⟨hfresh, hn⟩)
  | rearranged hperm => exact (hperm.map Entry.id).nodup_iff.mpr hn
  | reduced hsub => exact hn.sublist (hsub.map Entry.id)
  | changed g hmap hkept =>
    have hids : ids es' = ids es := by
      rw [hmap]
      unfold ids
      rw [List.map_map]
      exact List.map_congr_left fun e he => (hkept e he).id
    rw [hids]
    exact hn

theorem Effect.kept {es' : List Entry} {done : Edit × Answer} (h : Effect es es' done) {e : Entry}
    (he : e ∈ es) (hstay : e.id ∈ ids es') : ∃ e' ∈ es', Kept e e' [done] := by
  cases h with
  | grown new _ hperm =>
    exact ⟨e, hperm.mem_iff.mpr (List.mem_cons_of_mem new he), Kept.refl e _⟩
  | rearranged hperm => exact ⟨e, hperm.mem_iff.mpr he, Kept.refl e _⟩
  | reduced hsub => exact ⟨e, mem_of_sublist hn hsub he hstay, Kept.refl e _⟩
  | changed g hmap hkept =>
    rw [hmap]
    exact ⟨g e, List.mem_map_of_mem he, hkept e he⟩

end

end Entry

namespace Collection

def ids (c : Collection) : List String :=
  c.fields.map (·.id)

/-- No edit of a run gives out an id that is there at that moment. -/
def FreshIds (c : Collection) : List Edit → Prop
  | [] => True
  | e :: rest =>
    (∀ newId ∈ Answer.newId? (c.edit e).2, newId ∉ c.ids) ∧ FreshIds (c.edit e).1 rest

instance decidableFreshIds : ∀ (c : Collection) (edits : List Edit), Decidable (c.FreshIds edits)
  | _, [] => inferInstanceAs (Decidable True)
  | c, e :: rest =>
    have := decidableFreshIds (c.edit e).1 rest
    inferInstanceAs (Decidable (_ ∧ _))

def Stays (id : String) (c : Collection) : List Edit → Prop
  | [] => id ∈ c.ids
  | e :: rest => id ∈ c.ids ∧ Stays id (c.edit e).1 rest

instance decidableStays (id : String) : ∀ (c : Collection) (edits : List Edit), Decidable (Stays id c edits)
  | c, [] => inferInstanceAs (Decidable (id ∈ c.ids))
  | c, e :: rest =>
    have := decidableStays id (c.edit e).1 rest
    inferInstanceAs (Decidable (_ ∧ _))

def history (c : Collection) (edits : List Edit) : List (Edit × Answer) :=
  edits.zip (run edit c edits).2

theorem entries_move_perm (c : Collection) (source target : Int) :
    (c.move source target).entries.Perm c.entries := by
  unfold move
  split
  · exact List.Perm.refl _
  · split
    · exact List.Perm.refl _
    · next i _ =>
      split
      · exact List.Perm.refl _
      · next f hf =>
        obtain ⟨hi, rfl⟩ := List.getElem?_eq_some_iff.mp hf
        have hperm := Entry.insertIdx_eraseIdx_perm hi
          (k := (max 0 (min target (c.size - 1 : Int))).toNat) (by unfold size; omega)
        simpa [entries] using hperm.map (·.entry)

theorem ids_entries (c : Collection) : Entry.ids c.entries = c.ids :=
  List.map_map

theorem freshIds_append {c : Collection} {before during : List Edit} (h : c.FreshIds (before ++ during)) :
    c.FreshIds before ∧ (run edit c before).1.FreshIds during := by
  induction before generalizing c with
  | nil => exact ⟨trivial, h⟩
  | cons e rest ih =>
    obtain ⟨hrest, hduring⟩ := ih h.2
    exact ⟨⟨h.1, hrest⟩, hduring⟩

section
variable {c : Collection} (h : c.Ordered) (hn : c.ids.Nodup)

include h hn

theorem ids_nodup_edit {e : Edit} (hnew : ∀ newId ∈ Answer.newId? (c.edit e).2, newId ∉ c.ids) :
    (c.edit e).1.ids.Nodup := by
  have hshows := edit_shows h e
  rw [hshows.answer] at hnew
  simp only [← ids_entries] at hn hnew ⊢
  rw [hshows.entries]
  exact (Entry.effect_edit hn e).nodup hn hnew

theorem ids_nodup_run {edits : List Edit} (hf : c.FreshIds edits) : (run edit c edits).1.ids.Nodup := by
  induction edits generalizing c with
  | nil => exact hn
  | cons e rest ih => exact ih (edit_shows h e).ordered (ids_nodup_edit h hn hf.1) hf.2

theorem run_kept {edits : List Edit} (hf : c.FreshIds edits) {x : Entry} (hx : x ∈ c.entries)
    (hstay : Stays x.id c edits) :
    ∃ y ∈ (run edit c edits).1.entries, x.Kept y (c.history edits) := by
  induction edits generalizing c x with
  | nil => exact ⟨x, hx, Entry.Kept.refl x _⟩
  | cons e rest ih =>
    have hshows := edit_shows h e
    have hids : x.id ∈ (c.edit e).1.ids := by
      cases rest with
      | nil => exact hstay.2
      | cons _ _ => exact hstay.2.1
    rw [← ids_entries, hshows.entries] at hids
    have hn' : (Entry.ids c.entries).Nodup := by rwa [ids_entries]
    obtain ⟨y, hy, hkept⟩ := (Entry.effect_edit hn' e).kept hn' hx hids
    rw [← hshows.entries] at hy
    rw [← hshows.answer] at hkept
    obtain ⟨z, hz, hkept'⟩ := ih hshows.ordered (ids_nodup_edit h hn hf.1) hf.2 hy
      (hkept.id ▸ hstay.2)
    exact ⟨z, hz, hkept.trans hkept'⟩

end

section
variable {c : Collection} (hn : c.ids.Nodup)

include hn

theorem get?_eq_some_iff {id : String} {f : StoredField} : c.get? id = some f ↔ f ∈ c.fields ∧ f.id = id :=
  find?_key_iff hn

theorem entries_removeById_of_get? {id : String} {f : StoredField} (hf : c.get? id = some f) :
    ∃ front back, c.entries = front ++ f.entry :: back ∧ (c.removeById id).entries = front ++ back := by
  rw [← ids_entries] at hn
  have hfind : c.entries.find? (·.id == id) = some f.entry := by rw [find?_entries, hf, Option.map_some]
  obtain ⟨hid, front, back, hsplit, hfront⟩ := List.find?_eq_some_iff_append.mp hfind
  refine ⟨front, back, hsplit, ?_⟩
  rw [entries_removeById, hsplit, List.filter_append, List.filter_cons_of_neg (by simpa using hid)]
  congr 1
  · rw [List.filter_eq_self]
    intro e he
    simpa using hfront e he
  · rw [List.filter_eq_self]
    intro e he
    rw [hsplit] at hn
    unfold Entry.ids at hn
    rw [List.map_append, List.map_cons] at hn
    have hback := (List.nodup_cons.mp hn.of_append_right).1
    have hne : e.id ≠ f.entry.id := fun heq => hback (heq ▸ List.mem_map_of_mem he)
    rw [beq_iff_eq.mp hid] at hne
    simpa using hne

end

/-- Take any part of a run in which every id that is given out is new. Before and after it, ids are
distinct. A field whose id is there all through the part keeps its type, title and `isAuto`; its key is the
old one or one that was set under its id, and its specs are the old ones or some that were successfully set
under its id. Removing an id removes the one field that has it. -/
theorem run_keeps_identity (options : CollectionOptions) (fields : List StoredField)
    (hids : (fields.map (·.id)).Nodup) (before during : List Edit)
    (hfresh : (ofFields options fields).FreshIds (before ++ during)) :
    let c := (run edit (ofFields options fields) before).1
    let c' := (run edit c during).1
    c.ids.Nodup ∧ c'.ids.Nodup ∧
    (∀ id f, c.get? id = some f → Stays id c during →
      ∃ g, c'.get? id = some g ∧ f.entry.Kept g.entry (c.history during)) ∧
    ∀ id f, c.get? id = some f → ∃ front back,
      c.entries = front ++ f.entry :: back ∧ (c.removeById id).entries = front ++ back := by
  intro c c'
  have hstart : (ofFields options fields).ids = fields.map (·.id) := by
    have hentries : (ofFields options fields).entries = fields.map (·.entry) := map_entry_renumbered fields
    rw [← ids_entries, hentries]
    exact List.map_map
  have hordered := ordered_ofFields options fields
  have hfirst : (ofFields options fields).ids.Nodup := hstart ▸ hids
  obtain ⟨hbefore, hduring⟩ := freshIds_append hfresh
  have hc : c.Ordered := (run_shows hordered before).ordered
  have hcn : c.ids.Nodup := ids_nodup_run hordered hfirst hbefore
  have hcn' : c'.ids.Nodup := ids_nodup_run hc hcn hduring
  refine ⟨hcn, hcn', ?_, fun id f hf => entries_removeById_of_get? hcn hf⟩
  intro id f hf hstay
  obtain ⟨hmem, hid⟩ := (get?_eq_some_iff hcn).mp hf
  have hentry : f.entry.id = id := hid
  obtain ⟨y, hy, hkept⟩ := run_kept hc hcn hduring (List.mem_map_of_mem hmem) (hentry ▸ hstay)
  obtain ⟨g, hg, rfl⟩ := List.mem_map.mp hy
  exact ⟨g, (get?_eq_some_iff hcn').mpr ⟨hg, hkept.id.trans hid⟩, hkept⟩

theorem run_keeps_recordId :
    let edits : List Edit := [.move 0 3, .updateKey "autofield-id" "number", .removeById "autofield-createdat"]
    let c := (run edit (ofFields {} StoredField.autoFields) [.copy "second" "autofield-id"]).1
    (StoredField.autoFields.map (·.id)).Nodup ∧
    (ofFields {} StoredField.autoFields).FreshIds ([.copy "second" "autofield-id"] ++ edits) ∧
    ∃ g, (run edit c edits).1.get? "autofield-id" = some g ∧
      StoredField.recordId.entry.Kept g.entry (c.history edits) := by
  intro edits c
  have hids : (StoredField.autoFields.map (·.id)).Nodup := by decide
  have hfresh : (ofFields {} StoredField.autoFields).FreshIds ([.copy "second" "autofield-id"] ++ edits) := by
    decide +kernel
  refine ⟨hids, hfresh, ?_⟩
  obtain ⟨_, _, hkeeps, _⟩ := run_keeps_identity {} StoredField.autoFields hids _ _ hfresh
  have hget : c.get? "autofield-id" = some { StoredField.recordId with order := 0 } := by decide +kernel
  have hstays : Stays "autofield-id" c edits := by decide +kernel
  exact hkeeps _ { StoredField.recordId with order := 0 } hget hstays

end Collection

end TableSchema
