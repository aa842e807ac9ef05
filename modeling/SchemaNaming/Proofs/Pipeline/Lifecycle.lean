import SchemaNaming.Proofs.Pipeline.Overrides

/-!
Runs of calls on a pipeline. The first request for a name starts it, whether the request fails or
not. Nothing but overrides changes a slot, and they are refused from then on without any effect. A
request may change the generator that answers it, but no instance changes its class, so a slot that
holds an implementation of its contract always does.
-/

namespace SchemaNaming

namespace Plugin

/-- Classes stay as they are, and instances stay instances of their classes. -/
structure Registry.KeepsClasses (r r' : Registry) : Prop where
  classes : r'.classes = r.classes
  registered : r'.registered = r.registered
  verdicts : r'.verdicts = r.verdicts
  size : r'.instances.size = r.instances.size
  instances : ∀ id : InstanceId,
    (r'.instances.getD id default).cls = (r.instances.getD id default).cls ∧
      (r'.instances.getD id default).stated = (r.instances.getD id default).stated

namespace Registry.KeepsClasses

variable {r r' : Registry}

theorem composes : Composes KeepsClasses where
  refl _ := ⟨rfl, rfl, rfl, rfl, fun _ => ⟨rfl, rfl⟩⟩
  trans first second :=
    { classes := second.classes.trans first.classes
      registered := second.registered.trans first.registered
      verdicts := second.verdicts.trans first.verdicts
      size := second.size.trans first.size
      instances := fun id =>
        ⟨(second.instances id).1.trans (first.instances id).1,
          (second.instances id).2.trans (first.instances id).2⟩ }

theorem verdict_eq (keeps : KeepsClasses r r') (id : ClassId) (slot : Slot) :
    r'.verdict id slot = r.verdict id slot := by
  have same : r'.cls id = r.cls id := by rw [cls, cls, keeps.classes]
  have implements_eq : r'.implements id slot = r.implements id slot := by
    simp only [implements, widened, ownSlots, same, keeps.registered]
  rw [verdict, verdict, same, keeps.verdicts, implements_eq]

theorem isGenerator_eq (keeps : KeepsClasses r r') (id : InstanceId) (slot : Slot) :
    r'.isGenerator id slot = r.isGenerator id slot := by
  obtain ⟨cls, stated⟩ := keeps.instances id
  simp only [isGenerator, isInstance, keeps.verdict_eq, cls, stated]

theorem setGenerator (r : Registry) (id : InstanceId) (g : Generator) :
    KeepsClasses r { r with instances := r.instances.modify id ({ · with generator := some g }) } where
  classes := rfl
  registered := rfl
  verdicts := rfl
  size := Array.size_modify
  instances other := by
    by_cases present : other < r.instances.size
    · by_cases same : id = other <;> simp [Array.getD, present, Array.getElem_modify, same]
    · simp [Array.getD, present]

end Registry.KeepsClasses

theorem keepsClasses_ask (id : InstanceId) (request : Request) :
    Leads Registry.KeepsClasses (ask id request) := by
  have steps := Registry.KeepsClasses.composes
  refine .registry fun h => ?_
  dsimp only
  cases (h.plugins.instances.getD id default).generator with
  | none => exact Leads.check steps _ h
  | some g =>
    refine Leads.bind steps (.change fun r => .setGenerator r id _) (fun _ => ?_) h
    exact .bind steps (.of_plugins_eq steps (.emitAll _)) fun _ => .lift steps _

end Plugin

namespace Pipeline
open Plugin

variable {p : Pipeline} {s : Pipeline × Host}

/-- Every slot holds an instance that implements the contract of the slot. -/
def IsFilled (p : Pipeline) (r : Registry) : Prop :=
  ∀ slot, p.occupants.get slot < r.instances.size ∧
    r.isGenerator (p.occupants.get slot) slot = true

theorem IsFilled.of_keepsClasses {r r' : Registry} (filled : p.IsFilled r)
    (keeps : r.KeepsClasses r') : p.IsFilled r' := by
  intro slot
  rw [keeps.size, keeps.isGenerator_eq]
  exact filled slot

theorem IsFilled.of_grows {r r' : Registry} (filled : p.IsFilled r) (grows : r.Grows r') :
    p.IsFilled r' := by
  intro slot
  obtain ⟨present, implements⟩ := filled slot
  exact ⟨Nat.lt_of_lt_of_le present grows.instances_size_le,
    grows.isGenerator_mono present implements⟩

theorem generate_pipeline (request : Request) (s : Pipeline × Host) :
    (generate request s).2.1 = { s.1 with started := true } := rfl

theorem generate_keepsClasses (request : Request) (s : Pipeline × Host) :
    s.2.plugins.KeepsClasses (generate request s).2.2.plugins :=
  keepsClasses_ask (s.1.occupants.get request.slot) request s.2

/-- Of requests one after the other, the first one starts the pipeline; it may be the last that is
answered. -/
theorem generateAll_pipeline (requests : List Request) (s : Pipeline × Host) :
    (generateAll requests s).2.1 = { s.1 with started := s.1.started || !requests.isEmpty } ∧
      s.2.plugins.KeepsClasses (generateAll requests s).2.2.plugins := by
  induction requests generalizing s with
  | nil =>
    refine ⟨?_, Registry.KeepsClasses.composes.refl _⟩
    simp [generateAll]
  | cons request rest ih =>
    have first := generate_pipeline request s
    have keeps := generate_keepsClasses request s
    rw [generateAll, Run.bind_apply]
    rcases answered : generate request s with ⟨failure | name, middle⟩ <;>
      rw [answered] at first keeps
    · refine ⟨?_, keeps⟩
      simpa using first
    · obtain ⟨later, kept⟩ := ih middle
      have whole := Registry.KeepsClasses.composes.trans keeps kept
      dsimp only at first ⊢
      rw [Run.bind_apply]
      rcases rested : generateAll rest middle with ⟨failure | names, last⟩ <;>
        rw [rested] at later whole <;>
        exact ⟨by simpa [first] using later, whole⟩

theorem generateEnumNames_pipeline (schema : Schema) (s : Pipeline × Host) :
    (generateEnumNames schema s).2.1 =
        { s.1 with started := s.1.started || !schema.enumeration.isEmpty } ∧
      s.2.plugins.KeepsClasses (generateEnumNames schema s).2.2.plugins := by
  have same : (memberRequests schema).isEmpty = schema.enumeration.isEmpty := by
    rw [memberRequests, List.isEmpty_map]
    cases schema.enumeration <;> rfl
  rw [← same]
  exact generateAll_pipeline (memberRequests schema) s

theorem applyOverrides_refused (started : s.1.started = true) :
    applyOverrides s = (.error (.of (.pipelineState
      "Generator overrides must be applied before generation starts" none)), s) := by
  rw [applyOverrides, Run.bind_apply, Run.get_apply]
  dsimp only
  rw [if_pos started]
  rfl

/-- Overrides that are applied only replace the occupants of slots, each by an implementation of the
contract. -/
theorem applyOverrides_pipeline (s : Pipeline × Host) :
    (∃ occupants, (applyOverrides s).2.1 = { s.1 with occupants }) ∧
      (s.1.IsFilled s.2.plugins →
        (applyOverrides s).2.1.IsFilled (applyOverrides s).2.2.plugins) := by
  obtain ⟨p, h⟩ := s
  cases started : p.started with
  | true =>
    rw [applyOverrides_refused (s := (p, h)) started]
    exact ⟨⟨p.occupants, rfl⟩, id⟩
  | false =>
    rw [applyOverrides_of_not_started started, Run.bind_apply, onHost]
    rcases resolution : resolveAll p.overrides Overrides.order h with ⟨failure | resolved, middle⟩
    · exact ⟨⟨p.occupants, rfl⟩, fun filled => filled.of_grows (grows_resolveAll resolution)⟩
    · obtain ⟨slots, new⟩ := resolveAll_ok resolution
      obtain ⟨h', same, installs⟩ := install_eq resolved p middle
      dsimp only
      rw [installs]
      refine ⟨⟨installed p.occupants resolved, rfl⟩, fun filled slot => ?_⟩
      have grown := filled.of_grows (grows_resolveAll resolution)
      have different : (resolved.map Resolved.slot).Nodup := by
        rw [slots]
        exact List.Pairwise.filter _ (by decide : Overrides.order.Nodup)
      dsimp only
      rw [same]
      by_cases listed : slot ∈ resolved.map Resolved.slot
      · obtain ⟨r, member, rfl⟩ := List.mem_map.mp listed
        rw [installed_get_of_mem different member]
        exact ⟨(new r member).present, (new r member).implements⟩
      · rw [installed_get_of_notMem listed]
        exact grown slot

end Pipeline

/-- What a pipeline can be asked for. -/
inductive PipelineCall where
  | applyOverrides
  | generate (request : Request)
  | generateEnumNames (schema : Schema)

namespace PipelineCall
open Plugin Pipeline

/-- Whether a call asks a generator for a name. -/
def asks : PipelineCall → Bool
  | .applyOverrides => false
  | .generate _ => true
  | .generateEnumNames schema => !schema.enumeration.isEmpty

/-- The pipeline and the host behind a call, whether it has failed or not. -/
def after (s : Pipeline × Host) : PipelineCall → Pipeline × Host
  | .applyOverrides => (Pipeline.applyOverrides s).2
  | .generate request => (Pipeline.generate request s).2
  | .generateEnumNames schema => (Pipeline.generateEnumNames schema s).2

/-- The pipeline and the host behind calls one after the other. -/
def afterAll (calls : List PipelineCall) (s : Pipeline × Host) : Pipeline × Host :=
  calls.foldl after s

variable {s : Pipeline × Host}

theorem after_started (s : Pipeline × Host) (call : PipelineCall) :
    (call.after s).1.started = (s.1.started || call.asks) := by
  cases call with
  | applyOverrides =>
    obtain ⟨occupants, same⟩ := (applyOverrides_pipeline s).1
    rw [after, same, asks, Bool.or_false]
  | generate request =>
    rw [after, generate_pipeline, asks, Bool.or_true]
  | generateEnumNames schema =>
    rw [after, (generateEnumNames_pipeline schema s).1, asks]

theorem after_of_started (started : s.1.started = true) (call : PipelineCall) :
    (call.after s).1 = s.1 := by
  have still : { s.1 with started := true } = s.1 := by rw [← started]
  cases call with
  | applyOverrides => rw [after, applyOverrides_refused started]
  | generate request => exact still
  | generateEnumNames schema =>
    rw [after, (generateEnumNames_pipeline schema s).1, started, Bool.true_or]
    exact still

theorem after_isFilled (filled : s.1.IsFilled s.2.plugins) (call : PipelineCall) :
    (call.after s).1.IsFilled (call.after s).2.plugins := by
  cases call with
  | applyOverrides => exact (applyOverrides_pipeline s).2 filled
  | generate request =>
    have keeps := generate_keepsClasses request s
    exact IsFilled.of_keepsClasses (p := { s.1 with started := true }) filled keeps
  | generateEnumNames schema =>
    obtain ⟨same, keeps⟩ := generateEnumNames_pipeline schema s
    rw [after, same]
    exact IsFilled.of_keepsClasses (p := { s.1 with started := _ }) filled keeps

theorem afterAll_started (calls : List PipelineCall) (s : Pipeline × Host) :
    (afterAll calls s).1.started = (s.1.started || calls.any asks) := by
  induction calls generalizing s with
  | nil => simp [afterAll]
  | cons call rest ih =>
    change (afterAll rest (call.after s)).1.started = _
    rw [ih, after_started, List.any_cons, Bool.or_assoc]

theorem afterAll_of_started (started : s.1.started = true) (calls : List PipelineCall) :
    (afterAll calls s).1 = s.1 := by
  induction calls generalizing s with
  | nil => rfl
  | cons call rest ih =>
    have same := after_of_started started call
    exact (ih (same ▸ started)).trans same

theorem afterAll_isFilled (filled : s.1.IsFilled s.2.plugins) (calls : List PipelineCall) :
    (afterAll calls s).1.IsFilled (afterAll calls s).2.plugins := by
  induction calls generalizing s with
  | nil => exact filled
  | cons call rest ih => exact ih (after_isFilled filled call)

/-- A pipeline is started by the first call that asks for a name, and never otherwise. From then on no
call changes it, and overrides are refused without any effect on the pipeline and the host. Slots that
hold implementations of their contracts do so behind all calls. -/
theorem afterAll_lifecycle (calls : List PipelineCall) (s : Pipeline × Host) :
    (afterAll calls s).1.started = (s.1.started || calls.any asks) ∧
      (s.1.started = true → (afterAll calls s).1 = s.1) ∧
      ((afterAll calls s).1.started = true →
        Pipeline.applyOverrides (afterAll calls s) =
          (.error (.of (.pipelineState
            "Generator overrides must be applied before generation starts" none)),
            afterAll calls s)) ∧
      (s.1.IsFilled s.2.plugins →
        (afterAll calls s).1.IsFilled (afterAll calls s).2.plugins) :=
  ⟨afterAll_started calls s, fun started => afterAll_of_started started calls,
    applyOverrides_refused, fun filled => afterAll_isFilled filled calls⟩

/-- No name is asked for in an empty enumeration. The first name that is asked for is refused by the
generator, and the override behind it by the pipeline. -/
theorem afterAll_lifecycle_refusals :
    let cls : Plugin.Class := { (default : Plugin.Class) with name := "G", slots := Slot.all }
    let i : Instance := { cls := 0, generator := some (Generator.default .property) }
    let h : Host := { plugins := { classes := #[cls], instances := #[i] } }
    let p : Pipeline := { occupants := ⟨0, 0, 0⟩, overrides := { type := .text "m.py:G" } }
    let calls : List PipelineCall :=
      [.generateEnumNames {}, .generate (.property none), .applyOverrides]
    let s' := afterAll calls (p, h)
    p.IsFilled h.plugins ∧ (calls.take 1).any asks = false ∧ calls.any asks = true ∧
      s'.1.started = true ∧ Pipeline.applyOverrides s' = (.error (.of (.pipelineState
        "Generator overrides must be applied before generation starts" none)), s') ∧
      s'.1.IsFilled s'.2.plugins := by
  intro cls i h p calls s'
  have filled : p.IsFilled h.plugins := by
    intro slot
    cases slot <;> exact ⟨by decide, by decide +kernel⟩
  obtain ⟨started, _, refused, filledToo⟩ := afterAll_lifecycle calls (p, h)
  exact ⟨filled, rfl, rfl, started, refused started, filledToo filled⟩

end PipelineCall

end SchemaNaming
