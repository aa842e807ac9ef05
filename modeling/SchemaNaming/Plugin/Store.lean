import SchemaNaming.Host

/-!
The registry of plugins inside a host: entries are added and bound, and instances are asked for
names.
-/

namespace SchemaNaming.Plugin

def registry : Run Host Registry := do return (← Run.get).plugins

theorem registry_bind (f : Registry → Run Host α) (h : Host) :
    (registry >>= f) h = f h.plugins h := rfl

def change (f : Registry → Registry) : Run Host Unit :=
  Run.modify (fun h => { h with plugins := f h.plugins })

def addModule (m : Module) : Run Host ModuleId := fun h =>
  let (id, r) := h.plugins.addModule m
  (.ok id, { h with plugins := r })

def addClass (c : Class) : Run Host ClassId := fun h =>
  let (id, r) := h.plugins.addClass c
  (.ok id, { h with plugins := r })

def enter (name : String) (id : ModuleId) : Run Host Unit :=
  change (fun r => { r with table := r.table.bind name id })

def leave (name : String) : Run Host Unit :=
  change (fun r => { r with table := r.table.unbind name })

def note (event : ExecutionEvent) : Run Host Unit :=
  change (fun r => { r with history := r.history ++ [event] })

def addInstance (i : Instance) : Run Host InstanceId := fun h =>
  let (id, r) := h.plugins.addInstance i
  (.ok id, { h with plugins := r })

def instanceClass (id : InstanceId) : Run Host Class := do
  let r ← registry
  return r.cls (r.instances.getD id default).cls

/-- Lets a class count as an implementation of a slot's contract, unless the contract itself derives
from the class. -/
def register (id : ClassId) (slot : Slot) : Run Host Unit := do
  let r ← registry
  let contract := contractClass slot
  let derives := (r.cls contract).ancestors.contains id ||
    Slot.all.any (fun other => contractClass other == id && r.implements contract other)
  if r.implements id slot then pure ()
  else if derives then Run.fault (.mishap .inheritanceCycle)
  else change (fun r => { r with registered := r.registered ++ [(slot, id)] })

/-- What a call gives as a name; of other things than values nothing is told. -/
def called (r : Registry) (t : Thing) : Except Fault Value :=
  match r.call t [] with
  | .ok (.value v) => .ok v
  | .ok _ => .ok .null
  | .error fault => .error fault

/-- Asks a class itself for a name, so that the first argument is taken for the receiver and one is
missing at the end. Arguments that fit all the same give nothing. -/
def askClass (r : Registry) (id : ClassId) (slot : Slot) : Except Fault Value :=
  let holder := r.cls (((r.member? id methodName).map (·.1)).getD id)
  match r.classAttribute? id methodName with
  | none => .error (.noAttribute (.cls (r.cls id).name) methodName)
  | some found =>
    match holder.slots.head? with
    | none => called r found
    | some own =>
      match methodFault? holder.qualifiedName own ((methodParameters slot).length - 1) with
      | some fault => .error fault
      | none => called r found

/-- Asks a thing for a name that is no generator. -/
def askThing (r : Registry) (t : Thing) : Except Fault Value := do
  called r (← r.demand t methodName)

def askOther (r : Registry) (i : Instance) (slot : Slot) : Except Fault Value :=
  match i.itself with
  | some (.cls id) => askClass r id slot
  | some t => askThing r t
  | none => askThing r (.item i.cls [])

/-- Asks an instance for a name; its log records are emitted whatever the outcome. -/
def ask (id : InstanceId) (request : Request) : Run Host Value := do
  let r ← registry
  let i := r.instances.getD id default
  match i.generator with
  | none => Run.check (askOther r i request.slot)
  | some g => do
    let (reply, g) := g.ask request
    change (fun r =>
      { r with instances := r.instances.modify id (fun i => { i with generator := some g }) })
    Host.emitAll reply.records
    Run.lift reply.result

end SchemaNaming.Plugin
