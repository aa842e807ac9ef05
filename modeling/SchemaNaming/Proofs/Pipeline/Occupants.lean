import SchemaNaming.Proofs.Generator.TypeNames
import SchemaNaming.Proofs.Pipeline.Lifecycle

/-!
What becomes of generators while a pipeline is used. They are asked for names, and nothing else is
done to them: overrides put new instances into slots and leave the old ones as they are. So a
decorator stays a decorator with the same parameters, around what is left of the same base.
-/

namespace SchemaNaming

namespace Generator

theorem askAll_append (g : Generator) (first second : List Request) :
    (g.askAll (first ++ second)).2 = ((g.askAll first).2.askAll second).2 := by
  induction first generalizing g with
  | nil => rfl
  | cons request rest ih => exact ih (g.ask request).2

/-- What is asked of a decorator reaches its inside, or is refused. -/
theorem askAll_decorated (d : Decorator) (inner : Generator) (requests : List Request) :
    ∃ reached, ((decorated d inner).askAll requests).2 = .decorated d (inner.askAll reached).2 := by
  induction requests generalizing inner with
  | nil => exact ⟨[], rfl⟩
  | cons request rest ih =>
    change ∃ reached, (((decorated d inner).ask request).2.askAll rest).2 = _
    rw [ask]
    split
    · obtain ⟨reached, same⟩ := ih (inner.ask (Decorator.received request)).2
      exact ⟨Decorator.received request :: reached, same⟩
    · exact ih inner

theorem askAll_base (b : Base) (requests : List Request) :
    ((base b).askAll requests).2 = .base { b with asked := b.asked ++ requests } := by
  induction requests generalizing b with
  | nil => simp [askAll]
  | cons request rest ih =>
    refine (ih (b.ask request).2).trans ?_
    simp [Base.ask]

end Generator

namespace Plugin

/-- Generators are asked for names at most. -/
def AsksOnly (r r' : Registry) : Prop :=
  ∀ id g, r.generator? id = some g → ∃ requests, r'.generator? id = some (g.askAll requests).2

namespace AsksOnly

theorem composes : Composes AsksOnly where
  refl _ _ _ found := ⟨[], found⟩
  trans first second id g found := by
    obtain ⟨before, middle⟩ := first id g found
    obtain ⟨behind, last⟩ := second id _ middle
    exact ⟨before ++ behind, by rw [last, Generator.askAll_append]⟩

theorem of_grows {r r' : Registry} (grows : r.Grows r') : AsksOnly r r' := by
  intro id g found
  refine ⟨[], ?_⟩
  rw [Registry.generator?, Array.getD_eq_getD_getElem?] at found ⊢
  cases there : r.instances[id]? with
  | none =>
    rw [there] at found
    cases found
  | some i =>
    rw [there] at found
    rw [grows.instances there]
    exact found

theorem modify (r : Registry) {id : InstanceId} {g : Generator} (present : r.generator? id = some g)
    (request : Request) :
    AsksOnly r { r with instances :=
      r.instances.modify id ({ · with generator := some (g.ask request).2 }) } := by
  intro other g' found
  by_cases same : other = id
  · subst same
    obtain rfl := Option.some.inj (present.symm.trans found)
    exact ⟨[request], Registry.generator?_modify present _⟩
  · refine ⟨[], Eq.trans ?_ found⟩
    simp only [Registry.generator?, Array.getD_eq_getD_getElem?, Array.getElem?_modify,
      if_neg (Ne.symm same)]

end AsksOnly

theorem asksOnly_ask (id : InstanceId) (request : Request) : Leads AsksOnly (ask id request) := by
  have steps := AsksOnly.composes
  refine .registry fun h => ?_
  dsimp only
  cases present : (h.plugins.instances.getD id default).generator with
  | none => exact Leads.check steps _ h
  | some g =>
    exact Leads.andThen steps (AsksOnly.modify h.plugins present request) fun _ =>
      .bind steps (.of_plugins_eq steps (.emitAll _)) fun _ => .lift steps _

/-- An instance that is a decorator around the default generator, whatever it has been asked for. -/
def Registry.IsStandard (r : Registry) (id : InstanceId) (d : Decorator) : Prop :=
  ∃ asked, r.generator? id = some (.decorated d (.base { Default.base d.slot with asked }))

theorem Registry.IsStandard.of_asksOnly {r r' : Registry} {id : InstanceId}
    (stands : r.IsStandard id d) (asks : AsksOnly r r') : r'.IsStandard id d := by
  obtain ⟨asked, found⟩ := stands
  obtain ⟨requests, left⟩ := asks id _ found
  obtain ⟨reached, same⟩ := Generator.askAll_decorated d _ requests
  rw [same, Generator.askAll_base] at left
  exact ⟨_, left⟩

end Plugin

namespace Pipeline
open Plugin

theorem standardInstance_ok {id : InstanceId} (run : standardInstance d h = (.ok id, h')) :
    AsksOnly h.plugins h'.plugins ∧ h'.plugins.IsStandard id d := by
  cases run
  refine ⟨.of_grows (Registry.Grows.addInstance h.plugins _), [], ?_⟩
  simp [Registry.generator?, Generator.standard, Generator.default, Default.base, Base.stateless]

/-- Every slot that nothing else fills gets a standard generator. -/
theorem fill_ok {occupants : Occupants} {separator : Value} {digitPrefix : String}
    (run : fill separator digitPrefix (fun _ => none) h = (.ok occupants, h')) (slot : Slot) :
    h'.plugins.IsStandard (occupants.get slot) (.withSeparator slot separator digitPrefix) := by
  obtain ⟨enum, _, enumMade, run⟩ := Run.bind_eq_ok.mp run
  obtain ⟨type, _, typeMade, run⟩ := Run.bind_eq_ok.mp run
  obtain ⟨property, _, propertyMade, run⟩ := Run.bind_eq_ok.mp run
  cases run
  obtain ⟨_, enumStands⟩ := standardInstance_ok enumMade
  obtain ⟨afterEnum, typeStands⟩ := standardInstance_ok typeMade
  obtain ⟨afterType, propertyStands⟩ := standardInstance_ok propertyMade
  cases slot with
  | enum => exact (enumStands.of_asksOnly afterEnum).of_asksOnly afterType
  | type => exact typeStands.of_asksOnly afterType
  | property => exact propertyStands

theorem create_ok {occupants : Occupants} {overrides : Overrides}
    (run : create occupants overrides h = (.ok p, h')) :
    p.occupants = occupants ∧ h'.plugins = h.plugins := by
  cases run
  exact ⟨rfl, (Leads.emit _ h).symm⟩

variable {R : Registry → Registry → Prop}

theorem generateAll_leads (steps : Composes R) (asks : ∀ id request, Leads R (ask id request))
    (requests : List Request) (s : Pipeline × Host) :
    R s.2.plugins (generateAll requests s).2.2.plugins := by
  induction requests generalizing s with
  | nil => exact steps.refl _
  | cons request rest ih =>
    have first : R s.2.plugins (generate request s).2.2.plugins :=
      asks (s.1.occupants.get request.slot) request s.2
    rw [generateAll, Run.bind_apply]
    rcases answered : generate request s with ⟨failure | name, middle⟩ <;> rw [answered] at first
    · exact first
    · have whole := steps.trans first (ih middle)
      dsimp only
      rw [Run.bind_apply]
      rcases rested : generateAll rest middle with ⟨failure | names, last⟩ <;>
        rw [rested] at whole <;> exact whole

theorem applyOverrides_grows (s : Pipeline × Host) :
    s.2.plugins.Grows (applyOverrides s).2.2.plugins := by
  obtain ⟨p, h⟩ := s
  cases started : p.started with
  | true =>
    rw [applyOverrides_refused (s := (p, h)) started]
    exact Registry.Grows.composes.refl _
  | false =>
    rw [applyOverrides_of_not_started started, Run.bind_apply, onHost]
    rcases resolution : resolveAll p.overrides Overrides.order h with ⟨failure | resolved, middle⟩
    · exact grows_resolveAll resolution
    · obtain ⟨h', same, installs⟩ := install_eq resolved p middle
      dsimp only
      rw [installs]
      exact same ▸ grows_resolveAll resolution

end Pipeline

namespace PipelineCall
open Plugin Pipeline

theorem after_asksOnly (s : Pipeline × Host) (call : PipelineCall) :
    AsksOnly s.2.plugins (call.after s).2.plugins := by
  have steps := AsksOnly.composes
  cases call with
  | applyOverrides => exact AsksOnly.of_grows (applyOverrides_grows s)
  | generate request => exact asksOnly_ask (s.1.occupants.get request.slot) request s.2
  | generateEnumNames schema => exact generateAll_leads steps asksOnly_ask _ s

theorem afterAll_asksOnly (calls : List PipelineCall) (s : Pipeline × Host) :
    AsksOnly s.2.plugins (afterAll calls s).2.plugins := by
  induction calls generalizing s with
  | nil => exact AsksOnly.composes.refl _
  | cons call rest ih =>
    exact AsksOnly.composes.trans (after_asksOnly s call) (ih (call.after s))

end PipelineCall

end SchemaNaming
