import SchemaNaming.Refusal

/-!
Entries by name, in the order in which the names were bound first. Binding and unbinding a name
leaves every other name as it was.
-/

namespace SchemaNaming.Plugin

/-- Entries by name; a name that is bound again keeps its place. -/
abbrev Named (α : Type) := List (String × α)

namespace Named

def bind (name : String) (a : α) : Named α → Named α
  | [] => [(name, a)]
  | (k, b) :: rest => if k == name then (name, a) :: rest else (k, b) :: bind name a rest

def unbind (name : String) : Named α → Named α
  | [] => []
  | (k, a) :: rest => if k == name then unbind name rest else (k, a) :: unbind name rest

theorem lookup_bind_self (name : String) (a : α) (entries : Named α) :
    (bind name a entries).lookup name = some a := by
  induction entries with
  | nil => simp [bind]
  | cons entry rest ih =>
    obtain ⟨k, b⟩ := entry
    by_cases same : k = name
    · simp [bind, same]
    · simp [bind, same, List.lookup_cons, beq_false_of_ne (Ne.symm same), ih]

theorem lookup_bind_ne {name other : String} (different : other ≠ name) (a : α)
    (entries : Named α) : (bind name a entries).lookup other = entries.lookup other := by
  induction entries with
  | nil => simp [bind, List.lookup_cons, beq_false_of_ne different]
  | cons entry rest ih =>
    obtain ⟨k, b⟩ := entry
    by_cases same : k = name
    · simp [bind, same, List.lookup_cons, beq_false_of_ne different]
    · simp [bind, same, List.lookup_cons, ih]

theorem isSome_lookup_bind {entries : Named α} {other : String}
    (present : (entries.lookup other).isSome) (name : String) (a : α) :
    ((bind name a entries).lookup other).isSome := by
  by_cases same : other = name
  · rw [same, lookup_bind_self, Option.isSome_some]
  · rwa [lookup_bind_ne same]

theorem lookup_unbind_self (name : String) (entries : Named α) :
    (unbind name entries).lookup name = none := by
  induction entries with
  | nil => rfl
  | cons entry rest ih =>
    obtain ⟨k, b⟩ := entry
    by_cases same : k = name
    · simp [unbind, same, ih]
    · simp [unbind, same, List.lookup_cons, beq_false_of_ne (Ne.symm same), ih]

theorem lookup_unbind_ne {name other : String} (different : other ≠ name) (entries : Named α) :
    (unbind name entries).lookup other = entries.lookup other := by
  induction entries with
  | nil => rfl
  | cons entry rest ih =>
    obtain ⟨k, b⟩ := entry
    by_cases same : k = name
    · simp [unbind, same, List.lookup_cons, beq_false_of_ne different, ih]
    · simp [unbind, same, List.lookup_cons, ih]

end Named

end SchemaNaming.Plugin
