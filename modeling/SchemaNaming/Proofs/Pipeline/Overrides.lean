import SchemaNaming.Pipeline.Generation
import SchemaNaming.Proofs.Plugin.Growth

/-!
Overrides are applied to all their slots or to none. Every descriptor is resolved before the first
slot is filled, and filling slots cannot fail; what one resolution has made stays in place while the
others go on. A class may hand out what is there already, so not every instance is a new one.
-/

namespace SchemaNaming.Pipeline
open Plugin

/-- The instance of a resolved override implements the contract of its slot. It was made behind a
state of the host, unless its class hands it out again and again. -/
structure Resolved.IsGiven (r : Resolved) (before after : Registry) : Prop where
  present : r.id < after.instances.size
  implements : after.isGenerator r.id r.slot = true
  fresh : before.instances.size ≤ r.id ∨ after.isShared r.id = true

theorem Resolved.IsGiven.later {r : Resolved} (given : r.IsGiven first middle)
    (grows : middle.Grows last) : r.IsGiven first last where
  present := Nat.lt_of_lt_of_le given.present grows.instances_size_le
  implements := grows.isGenerator_mono given.present given.implements
  fresh := by
    rw [grows.isShared_eq given.present]
    exact given.fresh

theorem Resolved.IsGiven.earlier {r : Resolved} (given : r.IsGiven middle last)
    (grows : first.Grows middle) : r.IsGiven first last where
  present := given.present
  implements := given.implements
  fresh := given.fresh.imp_left (Nat.le_trans grows.instances_size_le)

theorem grows_resolve {descriptor : Value} {slot : Slot}
    (resolved : resolve descriptor slot h = (result, h')) : h.plugins.Grows h'.plugins := by
  have grown := grows_loadFrame.resolve descriptor slot h
  rwa [resolved] at grown

theorem leads_resolveAll {R : Registry → Registry → Prop} (frame : IsLoadFrame R)
    (overrides : Overrides) (slots : List Slot) : Leads R (resolveAll overrides slots) := by
  have steps := frame.toComposes
  induction slots with
  | nil => exact .pure steps _
  | cons slot rest ih =>
    rw [resolveAll]
    split
    · refine .bind steps (frame.resolve _ slot) fun _ => ?_
      exact .bind steps ih fun _ => .pure steps _
    · exact ih

theorem grows_resolveAll {overrides : Overrides} {slots : List Slot}
    (resolved : resolveAll overrides slots h = (result, h')) : h.plugins.Grows h'.plugins := by
  have grown := leads_resolveAll grows_loadFrame overrides slots h
  rwa [resolved] at grown

/-- Each slot with a descriptor, and no other one, gets an instance of its own. -/
theorem resolveAll_ok {overrides : Overrides} {slots : List Slot}
    (run : resolveAll overrides slots h = (.ok resolved, h')) :
    resolved.map Resolved.slot = slots.filter (fun slot => (overrides.get slot).isTrue) ∧
      ∀ r ∈ resolved, r.IsGiven h.plugins h'.plugins := by
  induction slots generalizing h resolved with
  | nil =>
    cases run
    exact ⟨rfl, by simp⟩
  | cons slot rest ih =>
    rw [resolveAll] at run
    split at run
    · rename_i filled
      obtain ⟨id, middle, first, run⟩ := Run.bind_eq_ok.mp run
      obtain ⟨others, last, later, run⟩ := Run.bind_eq_ok.mp run
      cases run
      obtain ⟨slots, given⟩ := ih later
      obtain ⟨present, implements, fresh⟩ := resolve_ok first
      refine ⟨by simp [filled, slots], ?_⟩
      intro r member
      rcases List.mem_cons.mp member with rfl | member
      · exact Resolved.IsGiven.later ⟨present, implements, fresh⟩ (grows_resolveAll later)
      · exact (given r member).earlier (grows_resolve first)
    · rename_i absent
      obtain ⟨slots, given⟩ := ih run
      exact ⟨by simp [absent, slots], given⟩

def installed (occupants : Occupants) (resolved : List Resolved) : Occupants :=
  resolved.foldl (fun occupants r => occupants.set r.slot r.id) occupants

theorem install_eq (resolved : List Resolved) (p : Pipeline) (h : Host) :
    ∃ h', h'.plugins = h.plugins ∧ install resolved (p, h) =
      (.ok (), ({ p with occupants := installed p.occupants resolved }, h')) := by
  induction resolved generalizing p h with
  | nil => exact ⟨h, rfl, rfl⟩
  | cons r rest ih =>
    let cls := h.plugins.cls (h.plugins.instances.getD r.id default).cls
    let event : Log.Event := .overrideApplied r.slot.name r.descriptor cls.name
    obtain ⟨h', same, run⟩ :=
      ih { p with occupants := p.occupants.set r.slot r.id } (h.record (event.record logger))
    exact ⟨h', same.trans (Leads.emit (event.record logger) h).symm, run⟩

theorem installed_get_of_notMem {resolved : List Resolved}
    (absent : slot ∉ resolved.map Resolved.slot) (occupants : Occupants) :
    (installed occupants resolved).get slot = occupants.get slot := by
  induction resolved generalizing occupants with
  | nil => rfl
  | cons r rest ih =>
    simp only [List.map_cons, List.mem_cons, not_or] at absent
    exact (ih absent.2 _).trans (occupants.get_set_ne absent.1 r.id)

theorem installed_get_of_mem {resolved : List Resolved}
    (different : (resolved.map Resolved.slot).Nodup) (member : r ∈ resolved)
    (occupants : Occupants) :
    (installed occupants resolved).get r.slot = r.id := by
  induction resolved generalizing occupants with
  | nil => simp at member
  | cons first rest ih =>
    simp only [List.map_cons, List.nodup_cons] at different
    rcases List.mem_cons.mp member with rfl | member
    · exact (installed_get_of_notMem different.1 _).trans (occupants.get_set_self r.slot r.id)
    · exact ih different.2 member _

theorem nodup_of_resolveAll {overrides : Overrides} {resolved : List Resolved}
    (run : resolveAll overrides Overrides.order h = (.ok resolved, h')) :
    (resolved.map Resolved.slot).Nodup := by
  rw [(resolveAll_ok run).1]
  exact List.Pairwise.filter _ (by decide : Overrides.order.Nodup)

theorem mem_slots_of_resolveAll {overrides : Overrides} {resolved : List Resolved}
    (run : resolveAll overrides Overrides.order h = (.ok resolved, h')) (slot : Slot) :
    slot ∈ resolved.map Resolved.slot ↔ (overrides.get slot).isTrue = true := by
  rw [(resolveAll_ok run).1, List.mem_filter]
  exact and_iff_right (by cases slot <;> decide)

theorem applyOverrides_of_started {p : Pipeline} (started : p.started = true) (h : Host) :
    ∃ failure, applyOverrides (p, h) = (.error failure, p, h) := by
  rw [applyOverrides, Run.bind_apply, Run.get_apply]
  dsimp only
  rw [if_pos started]
  exact ⟨_, rfl⟩

theorem applyOverrides_of_not_started {p : Pipeline} (started : p.started = false) (h : Host) :
    applyOverrides (p, h) =
      (onHost (resolveAll p.overrides Overrides.order) >>= install) (p, h) := by
  rw [applyOverrides, Run.bind_apply, Run.get_apply]
  dsimp only
  rw [if_neg (by simp [started])]

theorem applyOverrides_eq_ok :
    applyOverrides (p, h) = (.ok (), s) ↔ p.started = false ∧ ∃ resolved u,
      resolveAll p.overrides Overrides.order h = (.ok resolved, u) ∧
        install resolved (p, u) = (.ok (), s) := by
  cases started : p.started with
  | true =>
    obtain ⟨failure, run⟩ := applyOverrides_of_started started h
    simp [run]
  | false =>
    rw [applyOverrides_of_not_started started, Run.bind_apply, onHost]
    rcases resolveAll p.overrides Overrides.order h with ⟨failure | resolved, u⟩ <;>
      simp [and_assoc]

/-- A run that fails leaves every slot as it was. One that does not fills the slots that have a
descriptor with instances that implement their contracts, and leaves the others as they were. The
instances are new, but for those that their classes hand out again and again. -/
theorem applyOverrides_allOrNothing (p : Pipeline) (h : Host) :
    match applyOverrides (p, h) with
    | (.error _, p', _) => p'.occupants = p.occupants
    | (.ok (), p', h') => ∀ slot,
      if (p.overrides.get slot).isTrue then
        p'.occupants.get slot < h'.plugins.instances.size ∧
          h'.plugins.isGenerator (p'.occupants.get slot) slot = true ∧
          (h.plugins.instances.size ≤ p'.occupants.get slot ∨
            h'.plugins.isShared (p'.occupants.get slot) = true)
      else p'.occupants.get slot = p.occupants.get slot := by
  cases started : p.started with
  | true =>
    obtain ⟨failure, run⟩ := applyOverrides_of_started started h
    rw [run]
  | false =>
    rw [applyOverrides_of_not_started started, Run.bind_apply, onHost]
    rcases resolution : resolveAll p.overrides Overrides.order h with ⟨failure | resolved, middle⟩
    · rfl
    · obtain ⟨slots, instances⟩ := resolveAll_ok resolution
      obtain ⟨h', same, filled⟩ := install_eq resolved p middle
      dsimp only
      rw [filled]
      intro slot
      split
      · rename_i given
        have listed : slot ∈ resolved.map Resolved.slot := by
          rw [slots, List.mem_filter]
          exact ⟨by cases slot <;> decide, given⟩
        have different : (resolved.map Resolved.slot).Nodup := by
          rw [slots]
          exact List.Pairwise.filter _ (by decide : Overrides.order.Nodup)
        obtain ⟨r, member, rfl⟩ := List.mem_map.mp listed
        obtain ⟨present, implements, fresh⟩ := instances r member
        rw [installed_get_of_mem different member, same]
        exact ⟨present, implements, fresh⟩
      · rename_i absent
        refine installed_get_of_notMem ?_ p.occupants
        rw [slots, List.mem_filter]
        exact fun member => absent member.2

-- A generator for types is put into its slot, but not when the slot for properties asks for it too.
example :
    let generator : Item := .cls "G" { slots := [.type], script := some default } []
    let h : Host := { files := { nodes := [(["m.py"], .file (.source (.items [generator])))] } }
    let after (overrides : Overrides) : Occupants :=
      (applyOverrides ({ occupants := ⟨7, 8, 9⟩, overrides }, h)).2.1.occupants
    after { type := .text "m.py:G" } = ⟨7, 0, 9⟩ ∧
      after { type := .text "m.py:G", property := .text "m.py:G" } = ⟨7, 8, 9⟩ := by
  decide +kernel

/-- The start of the library beside a module that has another name for a class whose instances without
elements are all the same. The class counts as an implementation of a contract. -/
def sharingHost : Host :=
  let files : FileTree :=
    { nodes := [(["site"], .directory),
        (["site", "m.py"], .file (.source (.items [.alias "T" "tuple"])))] }
  let start : Host := { files, searchPath := ["/site"], plugins := Plugin.Library.registry }
  (register (classNumber "tuple") .enum start).2

/-- What two runs one after the other say, in a form that does not name their results. -/
theorem exists_runs {s : Pipeline × Host} (first : (applyOverrides s).1.toBool = true)
    (second : (applyOverrides (applyOverrides s).2).1.toBool = true) :
    ∃ t u, applyOverrides s = (.ok (), t) ∧ applyOverrides t = (.ok (), u) ∧
      (applyOverrides s).2 = t ∧ (applyOverrides (applyOverrides s).2).2 = u := by
  obtain ⟨ran, ran_eq⟩ : ∃ ran, applyOverrides s = ran := ⟨_, rfl⟩
  rw [ran_eq] at first second ⊢
  obtain ⟨again, again_eq⟩ : ∃ again, applyOverrides ran.2 = again := ⟨_, rfl⟩
  rw [again_eq] at second ⊢
  rcases ran with ⟨failure | _, t⟩
  · contradiction
  rcases again with ⟨failure | _, u⟩
  · contradiction
  exact ⟨t, u, rfl, again_eq, rfl, rfl⟩

/-- The second of two runs fills the slot with the instance that the first has put there. -/
theorem applyOverrides_shared :
    ¬ ∀ (p p₁ p₂ : Pipeline) (h h₁ h₂ : Host), applyOverrides (p, h) = (.ok (), p₁, h₁) →
      applyOverrides (p₁, h₁) = (.ok (), p₂, h₂) → ∀ slot, (p₁.overrides.get slot).isTrue = true →
        h₁.plugins.instances.size ≤ p₂.occupants.get slot := by
  intro renewed
  obtain ⟨first, second, given, old⟩ :
      let s : Pipeline × Host := (⟨⟨0, 1, 2⟩, { enum := .text "m:T" }, false⟩, sharingHost)
      (applyOverrides s).1.toBool = true ∧
      (applyOverrides (applyOverrides s).2).1.toBool = true ∧
      ((applyOverrides s).2.1.overrides.get .enum).isTrue = true ∧
      (applyOverrides (applyOverrides s).2).2.1.occupants.get .enum <
        (applyOverrides s).2.2.plugins.instances.size := by decide +kernel
  obtain ⟨t, u, ran, again, at_t, at_u⟩ := exists_runs first second
  rw [at_u, at_t] at old
  rw [at_t] at given
  exact absurd (renewed _ t.1 u.1 _ t.2 u.2 ran again .enum given) (Nat.not_le_of_lt old)

end SchemaNaming.Pipeline
