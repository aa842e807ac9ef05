import SchemaNaming.Proofs.Plugin.Changes

/-!
Loads only add to the registry: classes and instances that are there stay as they are, and none is
registered. So an instance that implements a contract when it is resolved does so behind every later
load. It is a new one, unless its class hands it out again and again.
-/

namespace SchemaNaming.Plugin

/-- An instance that its class hands out again and again. -/
def Registry.isShared (r : Registry) (id : InstanceId) : Bool :=
  (r.instances.getD id default).isShared

structure Registry.Grows (r r' : Registry) : Prop where
  classes {n : Nat} : r.classes[n]? = some c → r'.classes[n]? = some c
  instances {n : Nat} : r.instances[n]? = some i → r'.instances[n]? = some i
  registered : r'.registered = r.registered
  verdicts : r'.verdicts = r.verdicts

namespace Registry.Grows

variable {r r' : Registry}

theorem of_same (classes : r'.classes = r.classes) (instances : r'.instances = r.instances)
    (registered : r'.registered = r.registered) (verdicts : r'.verdicts = r.verdicts) :
    Grows r r' :=
  ⟨fun found => classes ▸ found, fun found => instances ▸ found, registered, verdicts⟩

theorem composes : Composes Grows where
  refl _ := of_same rfl rfl rfl rfl
  trans first second :=
    ⟨second.classes ∘ first.classes, second.instances ∘ first.instances,
      second.registered.trans first.registered, second.verdicts.trans first.verdicts⟩

theorem getElem?_push_of_some {xs : Array α} {n : Nat} (found : xs[n]? = some a) (b : α) :
    (xs.push b)[n]? = some a := by
  rw [Array.getElem?_push, if_neg, found]
  rintro rfl
  simp at found

theorem addClass (r : Registry) (c : Class) : Grows r (r.addClass c).2 :=
  ⟨fun found => getElem?_push_of_some found c, fun found => found, rfl, rfl⟩

theorem addInstance (r : Registry) (i : Instance) : Grows r (r.addInstance i).2 :=
  ⟨fun found => found, fun found => getElem?_push_of_some found i, rfl, rfl⟩

theorem instances_size_le (grows : Grows r r') : r.instances.size ≤ r'.instances.size := by
  refine Nat.le_of_not_lt fun less => ?_
  have found := grows.instances (Array.getElem?_eq_getElem less)
  simp at found

theorem widened_mono (grows : Grows r r') {slots slots' : List Slot}
    (more : ∀ slot ∈ slots, slot ∈ slots') :
    ∀ slot ∈ r.widened slots, slot ∈ r'.widened slots' := by
  intro slot member
  simp only [widened, List.mem_filter, Bool.or_eq_true, List.contains_iff_mem, List.any_eq_true,
    grows.registered] at member ⊢
  rcases member with ⟨listed, own | ⟨other, inside, registered⟩⟩
  · exact ⟨listed, .inl (more slot own)⟩
  · exact ⟨listed, .inr ⟨other, more other inside, registered⟩⟩

theorem cls_eq (grows : Grows r r') {id : ClassId} (present : id < r.classes.size) :
    r'.cls id = r.cls id := by
  have found := grows.classes (Array.getElem?_eq_getElem present)
  simp [cls, Array.getD_eq_getD_getElem?, found, present]

/-- A number that no class has yet stands for a class that declares nothing. -/
theorem cls_eq_or_default (grows : Grows r r') (id : ClassId) :
    r'.cls id = r.cls id ∨ r.cls id = default := by
  cases found : r.classes[id]? with
  | none => exact .inr (by simp [cls, Array.getD_eq_getD_getElem?, found])
  | some c =>
    exact .inl (by simp [cls, Array.getD_eq_getD_getElem?, found, grows.classes found])

theorem ownSlots_mono (grows : Grows r r') (id : ClassId) :
    ∀ slot ∈ r.ownSlots id, slot ∈ r'.ownSlots id := by
  intro slot member
  simp only [ownSlots, grows.registered] at member ⊢
  rcases grows.cls_eq_or_default id with same | none
  · rwa [same]
  · rw [none] at member
    have noSlots : (default : Class).slots = [] := rfl
    have noAncestors : (default : Class).ancestors = [] := rfl
    simp only [noSlots, noAncestors, List.mem_filter, List.contains_nil, List.any_cons,
      List.any_nil, Bool.false_or, Bool.or_false] at member
    simp only [List.mem_filter, List.any_cons, member.2, Bool.true_or, Bool.or_true, and_true]
    exact member.1

theorem implements_mono (grows : Grows r r') {id : ClassId}
    (implements : r.implements id slot = true) : r'.implements id slot = true := by
  simp only [Registry.implements, List.contains_iff_mem] at implements ⊢
  exact grows.widened_mono (grows.widened_mono (grows.ownSlots_mono id)) slot implements

/-- A later verdict on a class is the same, or a better one. -/
theorem verdict_eq_or_ok (grows : Grows r r') (id : ClassId) (slot : Slot) :
    r'.verdict id slot = r.verdict id slot ∨ r'.verdict id slot = .ok true := by
  by_cases declared : (r'.cls id).slots.contains slot = true
  · exact .inr (by rw [verdict, if_pos declared])
  · have before : ¬ (r.cls id).slots.contains slot = true := by
      rcases grows.cls_eq_or_default id with same | none
      · rwa [← same]
      · simp [none, show (default : Class).slots = [] from rfl]
    rw [verdict, verdict, if_neg declared, if_neg before, grows.verdicts]
    cases r.verdicts id slot with
    | some own => exact .inl rfl
    | none =>
      rw [Option.getD_none, Option.getD_none]
      cases later : r'.implements id slot with
      | true => exact .inr rfl
      | false =>
        have earlier : r.implements id slot = false := by
          refine eq_false_of_ne_true fun implements => ?_
          rw [grows.implements_mono implements] at later
          contradiction
        exact .inl (by rw [earlier])

theorem getD_eq (grows : Grows r r') {id : InstanceId} (present : id < r.instances.size) :
    r'.instances.getD id default = r.instances.getD id default := by
  have found := grows.instances (Array.getElem?_eq_getElem present)
  simp [Array.getD_eq_getD_getElem?, found, present]

/-- What is said of an instance is said of one like it later on. -/
theorem isInstance_of_alike (grows : Grows r r') {id other : InstanceId}
    (alike : r'.instances.getD other default = r.instances.getD id default)
    (implements : r.isInstance id slot = .ok true) : r'.isInstance other slot = .ok true := by
  rw [isInstance] at implements ⊢
  rw [alike]
  cases stated : (r.instances.getD id default).stated with
  | own =>
    rw [stated] at implements
    exact (grows.verdict_eq_or_ok _ slot).elim (·.trans implements) fun better => better
  | refused fault =>
    rw [stated] at implements
    cases implements
  | other cls =>
    rw [stated] at implements
    dsimp only at implements ⊢
    rcases grows.verdict_eq_or_ok cls slot with same | better
    · rw [same]
      split at implements
      · exact (grows.verdict_eq_or_ok _ slot).elim (·.trans implements) fun better => better
      · exact implements
    · rw [better]

theorem isGenerator_eq_true {id : InstanceId} :
    r.isGenerator id slot = true ↔ r.isInstance id slot = .ok true := by
  rw [isGenerator]
  cases r.isInstance id slot <;> simp

theorem isGenerator_mono (grows : Grows r r') {id : InstanceId} (present : id < r.instances.size)
    (implements : r.isGenerator id slot = true) : r'.isGenerator id slot = true :=
  isGenerator_eq_true.mpr
    (grows.isInstance_of_alike (grows.getD_eq present) (isGenerator_eq_true.mp implements))

theorem isShared_eq (grows : Grows r r') {id : InstanceId} (present : id < r.instances.size) :
    r'.isShared id = r.isShared id := congrArg Instance.isShared (grows.getD_eq present)

end Registry.Grows

open Registry (Grows)

theorem grows_changeFrame : IsChangeFrame Grows where
  toComposes := Grows.composes
  addClass := Grows.addClass
  setAttribute _ _ _ _ := .of_same rfl rfl rfl rfl
  addModule _ _ := .of_same rfl rfl rfl rfl
  enter _ _ _ := .of_same rfl rfl rfl rfl
  leave _ _ := .of_same rfl rfl rfl rfl
  note _ _ := .of_same rfl rfl rfl rfl
  conclude _ _ := .of_same rfl rfl rfl rfl

theorem grows_loadFrame : IsLoadFrame Grows :=
  grows_changeFrame.loadFrame Grows.addInstance fun _ _ _ _ => .of_same rfl rfl rfl rfl

/-- An instance is handed out again, or added behind what its construction does besides. -/
theorem newInstance_eq_ok {id : InstanceId} :
    newInstance cls h = (.ok id, h') ↔ ∃ product, (h.plugins.cls cls).construction = .ok product ∧
      ((h.plugins.shared? product = some id ∧ h' = h) ∨
        (h.plugins.shared? product = none ∧ ∃ middle, construct product h = (.ok (), middle) ∧
          addInstance (product.instance h.plugins cls) middle = (.ok id, h'))) := by
  rw [newInstance, registry_bind]
  cases (h.plugins.cls cls).construction with
  | error fault =>
    constructor
    · intro made
      cases made
    · rintro ⟨_, built, _⟩
      cases built
  | ok product =>
    dsimp only
    constructor
    · intro made
      refine ⟨product, rfl, ?_⟩
      cases shared : h.plugins.shared? product with
      | some known =>
        rw [shared] at made
        cases made
        exact .inl ⟨rfl, rfl⟩
      | none =>
        rw [shared] at made
        obtain ⟨_, middle, constructed, added⟩ := Run.bind_eq_ok.mp made
        exact .inr ⟨rfl, middle, constructed, added⟩
    · rintro ⟨_, built, ⟨shared, rfl⟩ | ⟨shared, middle, constructed, added⟩⟩ <;>
        obtain rfl := Except.ok.inj built <;> rw [shared]
      · rfl
      · exact Run.bind_eq_ok.mpr ⟨(), middle, constructed, added⟩

theorem isShared_of_shared? {r : Registry} {product : Product} {id : InstanceId}
    (found : r.shared? product = some id) : id < r.instances.size ∧ r.isShared id = true := by
  cases product with
  | existing kind =>
    obtain ⟨present, both, _⟩ := Array.findIdx?_eq_some_iff_getElem.mp found
    refine ⟨present, ?_⟩
    rw [Bool.and_eq_true] at both
    simpa [Registry.isShared, Array.getD, present] using both.1
  | _ => contradiction

theorem newInstance_ok {id : InstanceId} (made : newInstance cls h = (.ok id, h')) :
    id < h'.plugins.instances.size ∧
      (h.plugins.instances.size ≤ id ∨ h'.plugins.isShared id = true) := by
  obtain ⟨product, _, ⟨shared, rfl⟩ | ⟨_, middle, constructed, added⟩⟩ := newInstance_eq_ok.mp made
  · obtain ⟨present, handed⟩ := isShared_of_shared? shared
    exact ⟨present, .inr handed⟩
  · have grown := grows_loadFrame.construct product h
    rw [constructed] at grown
    cases added
    exact ⟨by simp, .inl grown.instances_size_le⟩

theorem resolve_eq_ok {id : InstanceId} :
    resolve v slot h = (.ok id, h') ↔
      ∃ d cls middle, Descriptor.ofValue v = .ok d ∧ typeOf d h = (.ok cls, middle) ∧
        instantiate d cls middle = (.ok id, h') ∧ h'.plugins.isGenerator id slot = true := by
  constructor
  · intro resolved
    obtain ⟨d, start, described, chosen⟩ := Run.bind_eq_ok.mp resolved
    obtain ⟨cls, middle, typed, made⟩ := Run.bind_eq_ok.mp chosen
    obtain ⟨number, last, instantiated, checked⟩ := Run.bind_eq_ok.mp made
    obtain ⟨valid, rfl⟩ := Run.check_eq_ok.mp described
    rw [registry_bind] at checked
    obtain ⟨verdict, implements, checked⟩ := Run.check_bind_eq_ok.mp checked
    cases verdict with
    | true =>
      cases checked
      exact ⟨d, cls, middle, valid, typed, instantiated, Grows.isGenerator_eq_true.mpr implements⟩
    | false => cases checked
  · rintro ⟨d, cls, middle, described, typed, instantiated, implements⟩
    refine Run.bind_eq_ok.mpr ⟨d, h, Run.check_eq_ok.mpr ⟨described, rfl⟩, ?_⟩
    refine Run.bind_eq_ok.mpr ⟨cls, middle, typed, Run.bind_eq_ok.mpr ⟨id, h', instantiated, ?_⟩⟩
    rw [registry_bind]
    exact Run.check_bind_eq_ok.mpr ⟨true, Grows.isGenerator_eq_true.mp implements, rfl⟩

/-- A resolved instance implements the contract, and is new unless its class hands it out again and
again. -/
theorem resolve_ok {id : InstanceId} (resolved : resolve descriptor slot h = (.ok id, h')) :
    id < h'.plugins.instances.size ∧ h'.plugins.isGenerator id slot = true ∧
      (h.plugins.instances.size ≤ id ∨ h'.plugins.isShared id = true) := by
  obtain ⟨d, cls, middle, _, typed, instantiated, implements⟩ := resolve_eq_ok.mp resolved
  obtain ⟨present, given⟩ := newInstance_ok (Run.wrapping_eq_ok.mp instantiated)
  have before := grows_loadFrame.typeOf d h
  rw [typed] at before
  exact ⟨present, implements, given.imp_left (Nat.le_trans before.instances_size_le)⟩

end SchemaNaming.Plugin
