import TableSchema.Json.Value
import TableSchema.Proofs.Repetitions
import TableSchema.Proofs.Text.Names

/-!
# Values by name

A sorted list of values by name is determined by what is found under each name. Putting a value in changes what
is found under its own name and nothing else.
-/

namespace TableSchema

section
variable {β : Type}

/-- Puts a value into a list sorted by name, in the place of one with the same name. -/
def putNamed (name : String) (b : β) : List (String × β) → List (String × β)
  | [] => [(name, b)]
  | (k, c) :: rest =>
    if name < k then (name, b) :: (k, c) :: rest
    else if name = k then (name, b) :: rest
    else (k, c) :: putNamed name b rest

theorem map_fst_putNamed (name : String) (b : β) (l : List (String × β)) :
    (putNamed name b l).map (·.1) = insertName name (l.map (·.1)) := by
  induction l with
  | nil => rfl
  | cons p rest ih =>
    obtain ⟨k, c⟩ := p
    simp only [putNamed, List.map_cons, insertName]
    split
    · rfl
    · split
      · next hk => rw [hk, List.map_cons]
      · rw [List.map_cons, ih]

theorem lookup_putNamed (name : String) (b : β) (l : List (String × β)) (k : String) :
    (putNamed name b l).lookup k = if k = name then some b else l.lookup k := by
  induction l with
  | nil => rw [putNamed, lookup_cons_eq_ite]
  | cons p rest ih =>
    obtain ⟨k', c⟩ := p
    unfold putNamed
    split
    · rw [lookup_cons_eq_ite]
    · split
      · next hk' =>
        subst hk'
        rw [lookup_cons_eq_ite, lookup_cons_eq_ite]
        split <;> rfl
      · next hk' =>
        rw [lookup_cons_eq_ite, ih, lookup_cons_eq_ite]
        by_cases hk : k = k'
        · simp [hk, Ne.symm hk']
        · simp [hk]

theorem insertMember_eq_putNamed (name : String) (v : Json) (members : List (String × Json)) :
    Json.insertMember name v members = putNamed name v members := by
  induction members with
  | nil => rfl
  | cons m rest ih => rw [Json.insertMember, putNamed, ih]

/-- The values of `later`, and those of `earlier` under all other names. -/
def overridden (earlier later : List (String × β)) : List (String × β) :=
  later.foldr (fun p l => putNamed p.1 p.2 l) earlier

theorem lookup_overridden (earlier later : List (String × β)) (k : String) :
    (overridden earlier later).lookup k = (later.lookup k).or (earlier.lookup k) := by
  induction later with
  | nil => rfl
  | cons p later ih =>
    have hstep : overridden earlier (p :: later) = putNamed p.1 p.2 (overridden earlier later) := rfl
    rw [hstep, lookup_putNamed, ih, lookup_cons_eq_ite]
    split <;> rfl

/-! ## Sorted lists -/

def SortedByName (l : List (String × β)) : Prop :=
  (l.map (·.1)).Pairwise (· < ·)

theorem SortedByName.putNamed {l : List (String × β)} (h : SortedByName l) (name : String) (b : β) :
    SortedByName (putNamed name b l) := by
  unfold SortedByName
  rw [map_fst_putNamed]
  exact insertName_sorted name h

theorem SortedByName.overridden {earlier : List (String × β)} (h : SortedByName earlier)
    (later : List (String × β)) : SortedByName (overridden earlier later) := by
  induction later with
  | nil => exact h
  | cons p later ih => exact ih.putNamed p.1 p.2

theorem SortedByName.nodup {l : List (String × β)} (h : SortedByName l) : (l.map (·.1)).Nodup :=
  nodup_of_sorted h

theorem SortedByName.ext {l l' : List (String × β)} (h : SortedByName l) (h' : SortedByName l')
    (hlookup : ∀ k, l.lookup k = l'.lookup k) : l = l' := by
  have hperm : l.Perm l' := by
    rw [List.perm_ext_iff_of_nodup (List.Nodup.of_map _ h.nodup) (List.Nodup.of_map _ h'.nodup)]
    intro p
    rw [mem_iff_lookup h.nodup, mem_iff_lookup h'.nodup, hlookup]
  refine hperm.eq_of_pairwise ?_ (List.pairwise_map.mp h) (List.pairwise_map.mp h')
  intro p q _ _ hpq hqp
  exact absurd (String.lt_trans hpq hqp) (String.lt_irrefl p.1)

end

end TableSchema
