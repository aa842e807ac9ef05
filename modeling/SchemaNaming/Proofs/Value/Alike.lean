import SchemaNaming.Value.Basic

/-!
Values that are the same but for their labels. A document that is written and read again gets new
labels, so what stands under them is compared instead, to any depth: values may lie inside
themselves.
-/

namespace SchemaNaming.Value

/-- A value down to a depth, with collections and times taken out of their labels. Nothing is below
that depth. -/
def unfolded : Nat → Value → Value
  | 0, _ => .null
  | depth + 1, v =>
    match v.bare with
    | .list items => .list (items.map (unfolded depth))
    | .tuple items => .tuple (items.map (unfolded depth))
    | .set items => .set (items.map (unfolded depth))
    | .dict entries => .dict (entries.map (Prod.map (unfolded depth) (unfolded depth)))
    | .day d => .day d
    | .moment m => .moment m
    | _ => v

/-- The same value under whatever labels. -/
def Alike (v w : Value) : Prop := ∀ depth, unfolded depth v = unfolded depth w

namespace Alike

theorem refl (v : Value) : Alike v v := fun _ => rfl

theorem symm (alike : Alike v w) : Alike w v := fun depth => (alike depth).symm

theorem trans (first : Alike u v) (second : Alike v w) : Alike u w :=
  fun depth => (first depth).trans (second depth)

/-- A text has no label. -/
theorem eq_text (alike : Alike v (.text s)) : v = .text s := by
  have shown : unfolded 1 v = .text s := alike 1
  rw [unfolded] at shown
  split at shown
  all_goals first | contradiction | exact shown

end Alike

theorem isTrue_fillIn {whole : Value} (label : Nat) :
    ∀ v : Value, whole.isTrue = v.isTrue → (fillIn label whole v).isTrue = v.isTrue
  | .labelled _ _ v, same => isTrue_fillIn label v same
  | .around other isList, same => by
    rw [fillIn]
    split
    · exact same
    · rfl
  | .list items, _ => by cases items <;> rfl
  | .tuple items, _ => by cases items <;> rfl
  | .dict entries, _ => by cases entries <;> rfl
  | .null, _ | .bool _, _ | .int _, _ | .float _, _ | .text _, _ | .bytes _, _ | .day _, _
  | .moment _, _ | .set _, _ => rfl

theorem isTrue_bare (v : Value) : v.bare.isTrue = v.isTrue := by
  cases v with
  | labelled label recurs v =>
    cases recurs with
    | true => exact isTrue_fillIn label v rfl
    | false => rfl
  | _ => rfl

theorem isTrue_unfolded (depth : Nat) (v : Value) :
    (unfolded (depth + 1) v).isTrue = v.isTrue := by
  rw [unfolded, ← isTrue_bare v]
  split
  · rename_i items bare
    rw [bare]
    cases items <;> rfl
  · rename_i items bare
    rw [bare]
    cases items <;> rfl
  · rename_i items bare
    rw [bare]
    cases items <;> rfl
  · rename_i entries bare
    rw [bare]
    cases entries <;> rfl
  · rename_i bare
    rw [bare]
  · rename_i bare
    rw [bare]
  · rw [isTrue_bare]

theorem Alike.isTrue_eq (alike : Alike v w) : v.isTrue = w.isTrue := by
  rw [← isTrue_unfolded 0 v, alike 1, isTrue_unfolded]

/-- Entries that are the same one by one. -/
def AllAlike (entries others : List (Value × Value)) : Prop :=
  ∀ depth, entries.map (Prod.map (unfolded depth) (unfolded depth)) =
    others.map (Prod.map (unfolded depth) (unfolded depth))

theorem Alike.bare_eq_dict (alike : Alike v (.dict entries)) :
    ∃ others, v.bare = .dict others ∧ AllAlike others entries := by
  have shown (depth : Nat) : unfolded (depth + 1) v =
      .dict (entries.map (Prod.map (unfolded depth) (unfolded depth))) := alike (depth + 1)
  cases bare : v.bare with
  | dict others =>
    refine ⟨others, rfl, fun depth => ?_⟩
    have shown := shown depth
    rw [unfolded, bare] at shown
    exact Value.dict.inj shown
  | _ =>
    have shown := shown 0
    rw [unfolded, bare] at shown
    first
      | contradiction
      | subst shown
        contradiction

theorem AllAlike.of_cons (alike : AllAlike entries (other :: others)) :
    ∃ entry rest, entries = entry :: rest ∧ Alike entry.1 other.1 ∧ Alike entry.2 other.2 ∧
      AllAlike rest others := by
  cases entries with
  | nil => exact nomatch alike 0
  | cons entry rest =>
    have same (depth : Nat) := List.cons.inj (alike depth)
    refine ⟨entry, rest, rfl, fun depth => ?_, fun depth => ?_, fun depth => (same depth).2⟩
    · exact (Prod.mk.inj (same depth).1).1
    · exact (Prod.mk.inj (same depth).1).2

/-- What stands under a key, where all keys are texts. -/
theorem AllAlike.get?_eq_some {fields : List (String × Value)}
    (alike : AllAlike entries (fields.map (fun field => (.text field.1, field.2))))
    (listed : get? key (fields.map (fun field => (.text field.1, field.2))) = some v) :
    ∃ w, get? key entries = some w ∧ Alike w v := by
  induction fields generalizing entries with
  | nil => contradiction
  | cons field fields ih =>
    obtain ⟨⟨k, w⟩, rest, rfl, sameKey, same, further⟩ := alike.of_cons
    obtain rfl := sameKey.eq_text
    rw [List.map_cons, get?] at listed
    rw [get?]
    split at listed
    · rename_i own
      obtain rfl := Option.some.inj listed
      rw [if_pos own]
      exact ⟨w, rfl, same⟩
    · rename_i unlike
      rw [if_neg unlike]
      exact ih further listed

mutual

/-- A test for the same value, without times and labels in it. -/
def isSame : Value → Value → Bool
  | .null, .null => true
  | .bool a, .bool b => a == b
  | .int m, .int n => m == n
  | .text s, .text t => s == t
  | .list items, .list others => areSame items others
  | .dict entries, .dict others => haveSame entries others
  | _, _ => false
termination_by structural v => v

def areSame : List Value → List Value → Bool
  | [], [] => true
  | item :: rest, other :: others => isSame item other && areSame rest others
  | _, _ => false
termination_by structural items => items

def haveSame : List (Value × Value) → List (Value × Value) → Bool
  | [], [] => true
  | (k, v) :: rest, (l, w) :: others => isSame k l && isSame v w && haveSame rest others
  | _, _ => false
termination_by structural entries => entries

end

mutual

theorem eq_of_isSame (v w : Value) (same : isSame v w = true) : v = w := by
  cases v with
  | null | bool _ | int _ | text _ => cases w <;> simp_all [isSame]
  | list items =>
    cases w with
    | list others =>
      rw [isSame] at same
      rw [eq_of_areSame items others same]
    | _ => simp [isSame] at same
  | dict entries =>
    cases w with
    | dict others =>
      rw [isSame] at same
      rw [eq_of_haveSame entries others same]
    | _ => simp [isSame] at same
  | _ => simp [isSame] at same

theorem eq_of_areSame (items others : List Value) (same : areSame items others = true) :
    items = others := by
  cases items with
  | nil => cases others <;> simp_all [areSame]
  | cons item rest =>
    cases others with
    | nil => simp [areSame] at same
    | cons other others =>
      rw [areSame, Bool.and_eq_true] at same
      rw [eq_of_isSame item other same.1, eq_of_areSame rest others same.2]

theorem eq_of_haveSame (entries others : List (Value × Value))
    (same : haveSame entries others = true) : entries = others := by
  cases entries with
  | nil => cases others <;> simp_all [haveSame]
  | cons entry rest =>
    obtain ⟨k, v⟩ := entry
    cases others with
    | nil => simp [haveSame] at same
    | cons other others =>
      obtain ⟨l, w⟩ := other
      rw [haveSame, Bool.and_eq_true, Bool.and_eq_true] at same
      obtain ⟨⟨sameKey, sameValue⟩, further⟩ := same
      rw [eq_of_isSame k l sameKey, eq_of_isSame v w sameValue, eq_of_haveSame rest others further]

end

end SchemaNaming.Value
