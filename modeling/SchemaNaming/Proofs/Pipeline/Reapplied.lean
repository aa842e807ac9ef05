import SchemaNaming.Proofs.Pipeline.Overrides
import SchemaNaming.Proofs.Plugin.Settled

/-!
Overrides that are applied a second time. Each descriptor leads to the same class again, of which
the slot gets another instance unless the class hands out the same one, and no module is executed, as
long as nothing that the run has loaded for one descriptor has changed what another one goes by. That
does happen: a module becomes an attribute of its package, and comes before what the name of the
package stood for.
-/

namespace SchemaNaming.Pipeline
open Plugin

variable {h h' u : Host} {overrides : Overrides} {slots : List Slot}

/-- What each descriptor goes by is, behind all of a run, as it was when the run had followed it. -/
def AllUndisturbed (overrides : Overrides) (last : Host) : List Slot → Host → Prop
  | [], _ => True
  | slot :: rest, h =>
    if (overrides.get slot).isTrue then
      (∀ d id path u, Descriptor.ofValue (overrides.get slot) = .ok d →
        placeOf d h = (.ok (id, path), u) → IsUndisturbed d id path u.plugins last) ∧
      AllUndisturbed overrides last rest (resolve (overrides.get slot) slot h).2
    else AllUndisturbed overrides last rest h

theorem AllUndisturbed.follows (kept : AllUndisturbed overrides h slots u)
    (follows : Follows h h') : AllUndisturbed overrides h' slots u := by
  induction slots generalizing u with
  | nil => trivial
  | cons slot rest ih =>
    rw [AllUndisturbed] at kept ⊢
    split at kept
    · rename_i given
      rw [if_pos given]
      obtain ⟨first, later⟩ := kept
      refine ⟨fun d id path middle described placed => ?_, ih later⟩
      exact (first d id path middle described placed).follows follows
    · rename_i absent
      rw [if_neg absent]
      exact ih kept

/-- The test of all descriptors along a run. -/
def allUndisturbed? (overrides : Overrides) (last : Host) : List Slot → Host → Bool
  | [], _ => true
  | slot :: rest, h =>
    if (overrides.get slot).isTrue then
      (match Descriptor.ofValue (overrides.get slot) with
        | .error _ => true
        | .ok d => match placeOf d h with
          | (.error _, _) => true
          | (.ok (id, path), u) => isUndisturbed? d id path u.plugins last) &&
      allUndisturbed? overrides last rest (resolve (overrides.get slot) slot h).2
    else allUndisturbed? overrides last rest h

theorem AllUndisturbed.of_test (kept : allUndisturbed? overrides h slots u = true) :
    AllUndisturbed overrides h slots u := by
  induction slots generalizing u with
  | nil => trivial
  | cons slot rest ih =>
    rw [allUndisturbed?] at kept
    rw [AllUndisturbed]
    split at kept
    · rename_i given
      rw [if_pos given]
      obtain ⟨first, later⟩ := Bool.and_eq_true_iff.mp kept
      refine ⟨fun d id path middle described placed => ?_, ih later⟩
      rw [described] at first
      dsimp only at first
      rw [placed] at first
      exact .of_test first
    · rename_i absent
      rw [if_neg absent]
      exact ih kept

/-- An override that was resolved again has an instance like the one before. It is a new one, or the
same if its class hands it out again and again. -/
structure Resolved.Renews (again r : Resolved) (before start last : Registry) : Prop where
  slot : again.slot = r.slot
  alike : ∃ i, before.instances[r.id]? = some i ∧ last.instances[again.id]? = some i ∧
    if i.isShared then again.id = r.id else start.instances.size ≤ again.id

theorem stays_resolveAll (quiet : h.IsQuiet) (overrides : Overrides) (slots : List Slot) :
    Stays h (resolveAll overrides slots) := by
  induction slots with
  | nil => exact .pure _
  | cons slot rest ih =>
    rw [resolveAll]
    split
    · exact .bind (stays_resolve quiet _ slot) fun _ => .bind ih fun _ => .pure _
    · exact ih

theorem resolveAll_again {resolved : List Resolved}
    (run : resolveAll overrides slots h = (.ok resolved, u)) (quiet : h.IsQuiet)
    (same : SameSurroundings h h') (grows : u.plugins.Grows h'.plugins)
    (cache : KeepsCache u.plugins h'.plugins) (kept : AllUndisturbed overrides h' slots h) :
    ∃ others last, resolveAll overrides slots h' = (.ok others, last) ∧ Follows h' last ∧
      ∀ r ∈ resolved, ∃ again ∈ others, again.Renews r u.plugins h'.plugins last.plugins := by
  -- Both hosts vary: the rest of the second run starts behind the instance that it has added, the
  -- rest of the first behind what it has loaded. What the second looks up is the same for both.
  induction slots generalizing h h' resolved with
  | nil =>
    cases run
    exact ⟨[], h', rfl, .refl h', by simp⟩
  | cons slot rest ih =>
    rw [resolveAll] at run ⊢
    rw [AllUndisturbed] at kept
    split at run
    · rename_i given
      rw [if_pos given] at kept ⊢
      obtain ⟨id, middle, first, run⟩ := Run.bind_eq_ok.mp run
      obtain ⟨tail, last, later, returned⟩ := Run.bind_eq_ok.mp run
      cases returned
      obtain ⟨undisturbed, undisturbedLater⟩ := kept
      rw [first] at undisturbedLater
      have grown := grows_resolveAll later
      have remembered : KeepsCache middle.plugins u.plugins := by
        have keeps := leads_resolveAll keepsCache_loadFrame overrides rest middle
        rwa [later] at keeps
      have between : SameSurroundings h middle := by
        have stays := (stays_resolve quiet (overrides.get slot) slot h (.refl h)).keeps
        rwa [first] at stays
      obtain ⟨again, start, firstAgain, follows, i, old, new, given⟩ :=
        resolve_again first quiet same (Registry.Grows.composes.trans grown grows)
          (keepsCache_loadFrame.trans remembered cache) undisturbed
      have grownAgain := grows_resolve firstAgain
      have rememberedAgain : KeepsCache h'.plugins start.plugins := by
        have keeps := keepsCache_loadFrame.resolve (overrides.get slot) slot h'
        rwa [firstAgain] at keeps
      obtain ⟨others, last, laterAgain, followsLater, renewed⟩ :=
        ih later (between.isQuiet quiet) ((between.symm.trans same).trans follows.surroundings)
          (Registry.Grows.composes.trans grows grownAgain)
          (keepsCache_loadFrame.trans cache rememberedAgain) (undisturbedLater.follows follows)
      refine ⟨⟨slot, (overrides.get slot).display, again⟩ :: others, last, ?_,
        follows.trans followsLater, ?_⟩
      · rw [Run.bind_apply, firstAgain]
        dsimp only
        rw [Run.bind_apply, laterAgain]
        rfl
      · intro r member
        rcases List.mem_cons.mp member with rfl | member
        · have grownLater := grows_resolveAll laterAgain
          exact ⟨_, List.mem_cons_self, rfl, i, grown.instances old, grownLater.instances new,
            given⟩
        · obtain ⟨other, listed, slotSame, i, old, new, given⟩ := renewed r member
          refine ⟨other, List.mem_cons_of_mem _ listed, slotSame, i, old, new, ?_⟩
          split at given
          · rwa [if_pos (by assumption)]
          · rw [if_neg (by assumption)]
            exact Nat.le_trans grownAgain.instances_size_le given
    · rename_i absent
      rw [if_neg absent] at kept ⊢
      exact ih run quiet same grows cache kept

theorem install_follows (quiet : h.IsQuiet) (resolved : List Resolved) (p : Pipeline) :
    Follows h (install resolved (p, h)).2.2 := by
  induction resolved generalizing p h with
  | nil => exact .refl h
  | cons r rest ih =>
    let cls := h.plugins.cls (h.plugins.instances.getD r.id default).cls
    let event : Log.Event := .overrideApplied r.slot.name r.descriptor cls.name
    have logged : Follows h (h.record (event.record logger)) := .record quiet _
    exact logged.trans (ih (logged.surroundings.isQuiet quiet) _)

/-- A second run behind one that has filled the slots fills the same ones, each with an instance of
the class that the first run has put there, and executes nothing. The instance is another one, unless
its class hands out the same again and again. -/
theorem applyOverrides_again {p p₁ : Pipeline} {h h₁ : Host}
    (applied : applyOverrides (p, h) = (.ok (), p₁, h₁)) (quiet : h.IsQuiet)
    (kept : AllUndisturbed p.overrides h₁ Overrides.order h) :
    ∃ p₂ h₂, applyOverrides (p₁, h₁) = (.ok (), p₂, h₂) ∧ Follows h₁ h₂ ∧
      ∀ slot, if (p.overrides.get slot).isTrue then
          ∃ i, h₁.plugins.instances[p₁.occupants.get slot]? = some i ∧
            h₂.plugins.instances[p₂.occupants.get slot]? = some i ∧
            if i.isShared then p₂.occupants.get slot = p₁.occupants.get slot
            else h₁.plugins.instances.size ≤ p₂.occupants.get slot
        else p₂.occupants.get slot = p₁.occupants.get slot := by
  obtain ⟨started, resolved, u, first, filled⟩ := applyOverrides_eq_ok.mp applied
  obtain ⟨last, still, installs⟩ := install_eq resolved p u
  rw [installs] at filled
  cases filled
  have stays := (stays_resolveAll quiet p.overrides Overrides.order h (.refl h)).keeps
  rw [first] at stays
  have logged := install_follows (stays.isQuiet quiet) resolved p
  rw [installs] at logged
  have same : SameSurroundings h h₁ := stays.trans logged.surroundings
  have grows : u.plugins.Grows h₁.plugins := still ▸ Registry.Grows.composes.refl _
  obtain ⟨others, last, second, follows, renewed⟩ :=
    resolveAll_again first quiet same grows (.of_same (by rw [still])) kept
  let p₁ : Pipeline := { p with occupants := installed p.occupants resolved }
  obtain ⟨h₂, behind, installsAgain⟩ := install_eq others p₁ last
  have loggedAgain := install_follows ((same.trans follows.surroundings).isQuiet quiet) others p₁
  rw [installsAgain] at loggedAgain
  have repeated : applyOverrides (p₁, h₁) = _ :=
    applyOverrides_eq_ok.mpr ⟨started, others, last, second, installsAgain⟩
  refine ⟨_, h₂, repeated, follows.trans loggedAgain, fun slot => ?_⟩
  · have listed := mem_slots_of_resolveAll first slot
    split
    · rename_i given
      obtain ⟨r, member, rfl⟩ := List.mem_map.mp (listed.mpr given)
      obtain ⟨again, inside, slotSame, alike⟩ := renewed r member
      have before := installed_get_of_mem (nodup_of_resolveAll first) member p.occupants
      have after := installed_get_of_mem (nodup_of_resolveAll second) inside p₁.occupants
      rw [slotSame] at after
      dsimp only
      rw [before, after, still, behind]
      rwa [still] at alike
    · rename_i absent
      refine installed_get_of_notMem ?_ _
      exact fun member => absent ((mem_slots_of_resolveAll second slot).mp member)

/-- A new pipeline with overrides that have not been applied. -/
def overridden (overrides : Overrides) : Run Host Pipeline := do
  create (← fill (.text "-") "N" (fun _ => none)) overrides

/-- The start of the library beside a package, in which one module has the name of the package. -/
def packageHost : Host :=
  let generator (name : String) (slot : Slot) : Node :=
    .file (.source (.items [.cls name { slots := [slot], script := some default } []]))
  { files := { nodes :=
      [(["site"], .directory), (["site", "pkg"], .directory),
       (["site", "pkg", "__init__.py"], generator "G" .type),
       (["site", "pkg", "pkg.py"], generator "H" .property),
       (["site", "pkg", "sub.py"], generator "E" .enum)] }
    searchPath := ["/site"]
    plugins := Plugin.Library.registry }

/-- The name of the package before a type of its own, a module by path and a module by its name. -/
theorem applyOverrides_again_package :
    let overrides : Overrides :=
      { type := .text "pkg:pkg.G"
        property := .text "site/pkg/pkg.py:H"
        enum := .text "pkg.sub.E" }
    let s : Pipeline × Host := (⟨⟨0, 1, 2⟩, overrides, false⟩, (overridden overrides packageHost).2)
    let s₁ := (applyOverrides s).2
    overridden overrides packageHost = (.ok s.1, s.2) ∧ (applyOverrides s).1.toBool = true ∧
      s.2.IsQuiet ∧ AllUndisturbed overrides s₁.2 Overrides.order s.2 ∧
      ∃ p₂ h₂, applyOverrides s₁ = (.ok (), p₂, h₂) ∧ Follows s₁.2 h₂ ∧
        ∀ slot, s₁.1.occupants.get slot < s₁.2.plugins.instances.size ∧
          s₁.2.plugins.instances.size ≤ p₂.occupants.get slot ∧
          ∃ i, s₁.2.plugins.instances[s₁.1.occupants.get slot]? = some i ∧
            h₂.plugins.instances[p₂.occupants.get slot]? = some i := by
  intro overrides s s₁
  have first : (applyOverrides s).1.toBool = true := by decide +kernel
  have quiet : s.2.IsQuiet := by
    intro r
    rw [Host.record_files]
    split <;> rfl
  have kept : AllUndisturbed overrides s₁.2 Overrides.order s.2 := .of_test (by decide +kernel)
  refine ⟨rfl, first, quiet, kept, ?_⟩
  have applied : applyOverrides (s.1, s.2) = (.ok (), s₁.1, s₁.2) := by
    cases ended : (applyOverrides s).1 with
    | error failure =>
      rw [ended] at first
      contradiction
    | ok _ => exact Prod.ext ended rfl
  have unshared (slot : Slot) : s₁.2.plugins.isShared (s₁.1.occupants.get slot) = false := by
    cases slot <;> decide +kernel
  obtain ⟨p₂, h₂, again, follows, renewed⟩ := applyOverrides_again applied quiet kept
  refine ⟨p₂, h₂, again, follows, fun slot => ?_⟩
  have filled := renewed slot
  rw [if_pos (by cases slot <;> rfl)] at filled
  obtain ⟨i, old, new, given⟩ := filled
  obtain ⟨present, found⟩ := Array.getElem?_eq_some_iff.mp old
  have fresh : ¬ i.isShared = true := by
    rw [← found]
    simpa [Registry.isShared, Array.getD, present] using unshared slot
  rw [if_neg fresh] at given
  exact ⟨present, given, i, old, new⟩

/-- A second run looks descriptors up in what the first has loaded. With the module that has the
name of its package the package has an attribute of that name, and the descriptor that began with
the name of the package leads nowhere. -/
theorem applyOverrides_not_again :
    ¬ ∀ (start h h₁ : Host) (overrides : Overrides) (p p₁ : Pipeline),
      start.plugins = Plugin.Library.registry → overridden overrides start = (.ok p, h) →
      applyOverrides (p, h) = (.ok (), p₁, h₁) →
      ∃ p₂ h₂, applyOverrides (p₁, h₁) = (.ok (), p₂, h₂) := by
  intro all
  let overrides : Overrides := { type := .text "pkg:pkg.G", property := .text "pkg.pkg:H" }
  let s : Pipeline × Host := (⟨⟨0, 1, 2⟩, overrides, false⟩, (overridden overrides packageHost).2)
  have made : overridden overrides packageHost = (.ok s.1, s.2) := rfl
  have first : (applyOverrides s).1.toBool = true := by decide +kernel
  have second : (applyOverrides (applyOverrides s).2).1.toBool = false := by decide +kernel
  rcases applied : applyOverrides s with ⟨failure | _, p₁, h₁⟩
  · rw [applied] at first
    contradiction
  · obtain ⟨p₂, h₂, again⟩ := all packageHost s.2 h₁ overrides s.1 p₁ rfl made applied
    rw [applied, again] at second
    contradiction

end SchemaNaming.Pipeline
