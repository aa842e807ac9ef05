import SchemaNaming.Proofs.Plugin.Outcome

/-!
Faults that a rule can find, and look-ups of attributes in particular. A hook may refuse a name with
any fault but that of a missing module: what foreign code raises does not say which one it misses.
-/

namespace SchemaNaming

/-- Every fault that a rule can find has a property. -/
def Faults (P : Fault → Prop) (x : Except Fault α) : Prop := ∀ fault, x = .error fault → P fault

namespace Faults

variable {P : Fault → Prop}

theorem ok (a : α) : Faults P (.ok a : Except Fault α) := nofun

theorem error {fault : Fault} (holds : P fault) : Faults P (.error fault : Except Fault α) :=
  fun _ same => Except.error.inj same ▸ holds

theorem bind {x : Except Fault α} {f : α → Except Fault β} (first : Faults P x)
    (second : ∀ a, x = .ok a → Faults P (f a)) : Faults P (x >>= f) := by
  cases outcome : x with
  | error fault => exact .error (first fault outcome)
  | ok a => exact second a outcome

theorem foldlM {f : β → α → Except Fault β} (each : ∀ b a, Faults P (f b a)) (names : List α)
    (b : β) : Faults P (names.foldlM f b) := by
  induction names generalizing b with
  | nil => exact .ok b
  | cons a rest ih => exact .bind (each b a) fun next _ => ih next

theorem mapM {f : α → Except Fault β} (each : ∀ a, Faults P (f a)) (values : List α) :
    Faults P (values.mapM f) := by
  induction values with
  | nil => exact .ok []
  | cons a rest ih =>
    rw [List.mapM_cons]
    exact .bind (each a) fun b _ => .bind ih fun bs _ => .ok (b :: bs)

end Faults

namespace Plugin

/-- A rule that tells of no missing module. -/
abbrev MissesNone (x : Except Fault α) : Prop := Faults (fun fault => fault.isMissing = false) x

theorem isMissing_withoutModule (fault : Fault) : fault.withoutModule.isMissing = false := by
  cases fault <;> rfl

namespace Registry

variable (r : Registry)

theorem missesNone_call (t : Thing) (arguments : List Thing) : MissesNone (r.call t arguments) := by
  rw [call]
  split
  · exact .ok _
  · exact .error (isMissing_withoutModule _)

theorem missesNone_asked (hook : Thing) (name : String) : MissesNone (r.asked hook name) := by
  rw [asked]
  split
  · exact .ok _
  · rename_i fault refused
    split
    · exact .ok _
    · exact .error (r.missesNone_call _ _ fault refused)

theorem missesNone_askedOf (hook : Option Thing) (name : String) :
    MissesNone (r.askedOf hook name) := by
  cases hook with
  | none => exact .ok _
  | some hook => exact r.missesNone_asked hook name

theorem missesNone_itemAttribute (cls : ClassId) (own : Named Thing) (name : String) :
    MissesNone (r.itemAttribute cls own name) := by
  rw [itemAttribute]
  split
  · exact r.missesNone_askedOf _ name
  · split
    · exact r.missesNone_askedOf _ name
    · exact .ok _

theorem missesNone_moduleAttribute (id : ModuleId) (name : String) :
    MissesNone (r.moduleAttribute id name) := by
  rw [moduleAttribute]
  split
  · exact r.missesNone_asked _ name
  · exact .ok _

theorem missesNone_attributeOf (owner : Thing) (name : String) :
    MissesNone (r.attributeOf owner name) := by
  cases owner with
  | module id => exact r.missesNone_moduleAttribute id name
  | cls id => exact .ok _
  | _ => exact r.missesNone_itemAttribute _ _ name

theorem missesNone_demand (owner : Thing) (name : String) : MissesNone (r.demand owner name) :=
  .bind (r.missesNone_attributeOf owner name) fun found _ => by
    cases found with
    | none => exact .error rfl
    | some t => exact .ok t

theorem missesNone_importedFrom (owner : Thing) (name : String) :
    MissesNone (r.importedFrom owner name) := by
  refine .bind (r.missesNone_attributeOf owner name) fun found _ => ?_
  cases found with
  | some t => exact .ok t
  | none =>
    dsimp only
    split
    · exact .ok _
    · exact .error rfl

end Registry

end Plugin

end SchemaNaming
