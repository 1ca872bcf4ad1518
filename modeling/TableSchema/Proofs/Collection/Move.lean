import Mathlib.Logic.Equiv.Defs
import TableSchema.Proofs.Collection.Identity

/-!
# Where a move takes each field

A field that moves from one position to another shifts those between the two by one. `place` says where each
goes. `move_permutes`: a move is this permutation and does nothing else, so that the move back undoes it.
-/

namespace TableSchema

/-- Where the element at `i` goes when the one at `a` is moved to `b`. -/
def place (a b i : Nat) : Nat :=
  if i = a then b
  else if a < i ∧ i ≤ b then i - 1
  else if b ≤ i ∧ i < a then i + 1
  else i

theorem place_moved (a b : Nat) : place a b a = b :=
  if_pos rfl

theorem place_self (a i : Nat) : place a a i = i := by
  grind [place]

theorem place_lt {a b i n : Nat} (ha : a < n) (hb : b < n) (hi : i < n) : place a b i < n := by
  grind [place]

theorem place_place (a b i : Nat) : place b a (place a b i) = i := by
  grind [place]

theorem place_lt_place {a b i j : Nat} (hi : i ≠ a) (hj : j ≠ a) (hij : i < j) : place a b i < place a b j := by
  grind [place]

theorem getElem?_place {α : Type} {xs : List α} {a b : Nat} (ha : a < xs.length) (hb : b < xs.length) (i : Nat) :
    ((xs.eraseIdx a).insertIdx b xs[a])[place a b i]? = xs[i]? := by
  have hlength := List.length_eraseIdx_of_lt ha
  by_cases hi : i = a
  · subst hi
    rw [place_moved, List.getElem?_insertIdx_self, if_pos (by omega), List.getElem?_eq_getElem ha]
  · -- behind the gap that is left and behind the place that is filled, positions shift by one
    rw [List.getElem?_insertIdx, List.getElem?_eraseIdx, List.getElem?_eraseIdx]
    grind [place]

def placement {n : Nat} (a b : Fin n) : Equiv.Perm (Fin n) where
  toFun i := ⟨place a b i, place_lt a.isLt b.isLt i.isLt⟩
  invFun i := ⟨place b a i, place_lt b.isLt a.isLt i.isLt⟩
  left_inv i := Fin.ext (place_place a b i)
  right_inv i := Fin.ext (place_place b a i)

theorem getElem?_renumbered (fields : List StoredField) (i : Nat) :
    (renumbered fields)[i]? = fields[i]?.map fun f => { f with order := i } :=
  List.getElem?_mapIdx

namespace Collection

theorem size_move (c : Collection) (source target : Int) : (c.move source target).size = c.size := by
  have hlength := (c.entries_move_perm source target).length_eq
  rwa [length_entries, length_entries] at hlength

section
variable {c : Collection} (h : c.Ordered)

include h

theorem order_of_getElem? (i : Nat) : (c.fields[i]?.map fun f => { f with order := (i : Int) }) = c.fields[i]? := by
  cases hf : c.fields[i]? with
  | none => rfl
  | some f => rw [Option.map_some, ← h i f hf]

theorem getElem?_move {a b : Nat} (ha : a < c.size) {target : Int}
    (hb : (b : Int) = max 0 (min target (c.size - 1))) (i : Nat) :
    (c.move a target).fields[place a b i]? = c.fields[i]?.map fun f => { f with order := (place a b i : Int) } := by
  unfold size at ha hb
  have hpos : min target.toNat (c.fields.length - 1) = b := by omega
  rw [move_eq h]
  by_cases hst : (a : Int) = target
  · have hab : b = a := by omega
    rw [dif_neg fun hc => hc.1 hst, hab, place_self, order_of_getElem? h]
  · rw [dif_pos ⟨hst, by omega, by omega⟩]
    simp only [hpos, Int.toNat_natCast, List.get_eq_getElem]
    rw [getElem?_renumbered, getElem?_place ha (by omega)]

theorem move_of_unknown {source : Int} (hs : ¬ (0 ≤ source ∧ source < c.size)) (target : Int) :
    c.move source target = c := by
  rw [move_eq h, dif_neg fun hc => hs hc.2]

theorem move_back {a b : Nat} (ha : a < c.size) (hb : b < c.size) : (c.move a b).move b a = c := by
  have hmoved := ordered_move h a b
  have hfields : ((c.move a b).move b a).fields = c.fields := by
    apply List.ext_getElem?
    intro i
    have hto : (b : Int) = max 0 (min (b : Int) (c.size - 1)) := by omega
    have hfro : (a : Int) = max 0 (min (a : Int) ((c.move a b).size - 1)) := by
      rw [size_move]
      omega
    have hthere := getElem?_move h ha hto i
    have hback := getElem?_move hmoved (c.size_move a b ▸ hb) hfro (place a b i)
    rw [place_place, hthere, Option.map_map] at hback
    rw [hback]
    exact order_of_getElem? h i
  have hoptions : ((c.move a b).move b a).options = c.options := by
    rw [options_move hmoved, options_move h]
  exact (Collection.mk.injEq ..).mpr ⟨hfields, hoptions⟩

end

/-- Take any collection that edits lead to. Moving a field to a position and back leaves the collection as it
is. A move from any order to any other is a permutation of positions: each field stands at its new position with
nothing but its order changed, fields that are not moved keep the order between them, and the one that is moved
stands at the target, or at the nearer end. -/
theorem move_permutes (options : CollectionOptions) (fields : List StoredField) (edits : List Edit) :
    let c := (run edit (ofFields options fields) edits).1
    (∀ a b : Nat, a < c.size → b < c.size → (c.move a b).move b a = c) ∧
    ∀ source target : Int, ∃ σ : Equiv.Perm (Fin c.size),
      (c.move source target).size = c.size ∧ (c.move source target).options = c.options ∧
      (∀ i, (c.move source target).fields[(σ i).val]? = some { c.fields.get i with order := (σ i).val }) ∧
      (∀ i j, (i.val : Int) ≠ source → (j.val : Int) ≠ source → i < j → σ i < σ j) ∧
      ∀ i, (i.val : Int) = source → ((σ i).val : Int) = max 0 (min target (c.size - 1)) := by
  intro c
  have h : c.Ordered := (run_shows (ordered_ofFields options fields) edits).ordered
  refine ⟨fun a b ha hb => move_back h ha hb, ?_⟩
  intro source target
  have hget : ∀ i : Fin c.size, c.fields[i.val]? = some (c.fields.get i) := fun i =>
    List.getElem?_eq_getElem i.isLt
  by_cases hs : 0 ≤ source ∧ source < c.size
  · obtain ⟨a, rfl⟩ := Int.eq_ofNat_of_zero_le hs.1
    have ha : a < c.size := by omega
    obtain ⟨b, hb⟩ := Int.eq_ofNat_of_zero_le (Int.le_max_left 0 (min target (c.size - 1)))
    have hblt : b < c.size := by omega
    refine ⟨placement ⟨a, ha⟩ ⟨b, hblt⟩, c.size_move _ _, options_move h _ _, ?_, ?_, ?_⟩
    · intro i
      have hmoved := getElem?_move h ha hb.symm i
      rwa [hget] at hmoved
    · intro i j hi hj hij
      exact place_lt_place (fun heq => hi (congrArg Int.ofNat heq)) (fun heq => hj (congrArg Int.ofNat heq)) hij
    · intro i hi
      have hia : i.val = a := by omega
      rw [hb]
      exact congrArg Int.ofNat (hia ▸ place_moved a b)
  · rw [move_of_unknown h hs]
    refine ⟨Equiv.refl _, rfl, rfl, ?_, ?_, ?_⟩
    · intro i
      have horder := order_of_getElem? h i
      rw [hget] at horder
      exact (hget i).trans horder.symm
    · intro i j _ _ hij
      exact hij
    · intro i hi
      omega

theorem move_permutes_recordId :
    let c := ofFields {} StoredField.autoFields
    (c.move 0 2).ids = ["autofield-createdat", "autofield-updatedat", "autofield-id"] ∧ (c.move 0 2).move 2 0 = c := by
  intro c
  obtain ⟨hback, _⟩ := move_permutes {} StoredField.autoFields []
  exact ⟨by decide, hback 0 2 (by decide) (by decide)⟩

end Collection

end TableSchema
