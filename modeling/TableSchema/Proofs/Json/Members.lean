import TableSchema.Json.Reading
import TableSchema.Proofs.Json.Recognition

/-!
# Members of object text

The text of an object by the members that stand in it, in their order. `read?_object`: the reader makes of it
the object of what it makes of each member.
-/

namespace TableSchema

namespace JsonText

open Document

/-- A member by what stands between the quotes of its name, and by the text of its value. -/
structure WrittenMember where
  name : List Char
  value : List Char

inductive MemberText (m : WrittenMember) : List Char → Prop where
  | mk {u w x y : List Char} : Space u → Content m.name → Space w → Space x → Value m.value → Space y →
      MemberText m (u ++ ('"' :: (m.name ++ ['"']) ++ (w ++ ':' :: (x ++ (m.value ++ y)))))

inductive MembersText : List WrittenMember → List Char → Prop where
  | one {m : WrittenMember} {s : List Char} : MemberText m s → MembersText [m] s
  | cons {m : WrittenMember} {ms : List WrittenMember} {s t : List Char} : MemberText m s →
      MembersText ms t → MembersText (m :: ms) (s ++ ',' :: t)

/-- An object with blank around it. -/
inductive ObjectText : List WrittenMember → List Char → Prop where
  | empty {u w x : List Char} : Space u → Space w → Space x → ObjectText [] (u ++ ('{' :: (w ++ ['}']) ++ x))
  | members {ms : List WrittenMember} {u s w : List Char} : Space u → MembersText ms s → Space w →
      ObjectText ms (u ++ ('{' :: (s ++ ['}']) ++ w))

/-! ## Texts of the grammar -/

def isPlain (c : Char) : Bool :=
  ' ' ≤ c && c != '"' && c != '\\'

theorem content_of_plain {s : List Char} (h : s.all isPlain = true) : Content s := by
  induction s with
  | nil => exact .nil
  | cons c s ih =>
    rw [List.all_cons, Bool.and_eq_true] at h
    obtain ⟨hc, hs⟩ := h
    simp only [isPlain, Bool.and_eq_true, decide_eq_true_eq, bne_iff_ne] at hc
    obtain ⟨⟨hlow, hquote⟩, hback⟩ := hc
    exact .cons (.plain hlow hquote hback) (ih hs)

theorem member_of_text {m : WrittenMember} {s : List Char} (h : MemberText m s) : Member s := by
  cases h with
  | mk hu hn hw hx hv hy => exact .mk hu (.mk hn) hw hx hv hy

theorem members_of_text {ms : List WrittenMember} {s : List Char} (h : MembersText ms s) : Members s := by
  induction h with
  | one hm => exact .one (member_of_text hm)
  | cons hm _ ih => exact .cons (member_of_text hm) ih

theorem exists_memberText {s : List Char} (h : Member s) : ∃ m, MemberText m s := by
  cases h with
  | @mk u n w x v y hu hn hw hx hv hy =>
    obtain ⟨hn⟩ := hn
    exact ⟨⟨_, v⟩, .mk hu hn hw hx hv hy⟩

theorem exists_membersText {s : List Char} (h : Members s) : ∃ ms, MembersText ms s := by
  -- the grammar is mutual, so the induction is on the length of the text
  induction hlen : s.length using Nat.strongRecOn generalizing s with
  | ind n ih =>
    cases h with
    | one hm =>
      obtain ⟨m, hm⟩ := exists_memberText hm
      exact ⟨[m], .one hm⟩
    | @cons t s hm hs =>
      rw [List.length_append, List.length_cons] at hlen
      obtain ⟨m, hm⟩ := exists_memberText hm
      obtain ⟨ms, hs⟩ := ih s.length (by omega) hs rfl
      exact ⟨m :: ms, .cons hm hs⟩

/-- The texts of objects are the JSON texts that begin with a brace, behind blank. -/
theorem exists_objectText_iff (s : List Char) :
    (∃ ms, ObjectText ms s) ↔ Text s ∧ (skipSpace s).head? = some '{' := by
  apply Iff.intro
  · rintro ⟨ms, h⟩
    cases h with
    | empty hu hw hx => exact ⟨.mk hu (.emptyObject hw) hx, by simp [skipSpace_space hu, isJsonSpace]⟩
    | members hu hs hw =>
      exact ⟨.mk hu (.object (members_of_text hs)) hw, by simp [skipSpace_space hu, isJsonSpace]⟩
  · rintro ⟨h, hhead⟩
    obtain ⟨hu, hv, hw⟩ := h
    rw [skipSpace_value hu hv] at hhead
    cases hv with
    | emptyObject hblank => exact ⟨[], .empty hu hblank hw⟩
    | object hs =>
      obtain ⟨ms, hs⟩ := exists_membersText hs
      exact ⟨ms, .members hu hs hw⟩
    | number hn =>
      obtain ⟨c, t, rfl, hc⟩ := number_head hn
      exact absurd (Option.some.inj hhead) (ne_of_number_start hc (by decide))
    | string hs =>
      obtain ⟨_⟩ := hs
      cases hhead
    | _ => cases hhead

/-! ## Reading -/

namespace WrittenMember

def read (m : WrittenMember) : List Piece × Document :=
  (((pieces? (m.name ++ ['"'])).map (·.1)).getD [], (read? m.value).getD .null)

def name? (m : WrittenMember) : Option String :=
  (textOf m.read.1).map String.ofList

theorem read_value {m : WrittenMember} {d : Document} (h : read? m.value = some d) : m.read.2 = d := by
  unfold read
  rw [h]
  rfl

end WrittenMember

theorem read?_value {v : List Char} {d : Document} (hv : Value v) (hd : Reads v d) : read? v = some d := by
  have h := read?_of_reads space_nil hv hd space_nil
  rwa [List.append_nil, List.nil_append] at h

theorem memberReads_of_text {m : WrittenMember} {s : List Char} (h : MemberText m s) :
    MemberReads s m.read := by
  cases h with
  | mk hu hn hw hx hv hy =>
    obtain ⟨ps, hps⟩ := pieces?_complete hn
    obtain ⟨d, hd⟩ := value_read hv
    have hread : m.read = (ps, d) := by
      unfold WrittenMember.read
      rw [hps [], read?_value hv hd]
      rfl
    rw [hread]
    exact memberReads_mk hu hps hw hx hv hd hy

theorem membersRead_of_text {ms : List WrittenMember} {s : List Char} (h : MembersText ms s) :
    MembersRead s (ms.map (·.read)) := by
  induction h with
  | one hm => exact membersRead_one (memberReads_of_text hm)
  | cons hm _ ih => exact membersRead_cons (memberReads_of_text hm) ih

theorem read?_object {ms : List WrittenMember} {s : List Char} (h : ObjectText ms s) :
    read? s = some (.object (ms.map (·.read))) := by
  cases h with
  | empty hu hw hx =>
    exact read?_of_reads hu (.emptyObject hw) (reads_emptyObject hw) hx
  | members hu hs hw =>
    have hmembers := members_of_text hs
    exact read?_of_reads hu (.object hmembers) (reads_object hmembers (membersRead_of_text hs)) hw

end JsonText

end TableSchema
