import SchemaNaming.Identifier.Basic
import SchemaNaming.Plugin.Catalogue
import SchemaNaming.Plugin.Scope
import SchemaNaming.Plugin.Source

/-!
Classes made from declarations: what a class holds, what is refused when it is made, and what is
refused when it is asked for an instance.
-/

namespace SchemaNaming.Plugin

def refusalOf? (r : Registry) (t : Thing) : Option Fault :=
  match r.call t [] with
  | .error fault => some fault
  | .ok _ => none

def initialRefusal? (r : Registry) (t : Thing) : Option Fault :=
  match r.call t [] with
  | .error fault => some fault
  | .ok .null => none
  | .ok t => some (.ofType ("__init__() should return None, not '" ++ r.kindName t ++ "'"))

/-- What the constructor of a class refuses: its own, what its body binds in the place of one, or
that of the nearest ancestor with one. -/
def constructorRefusal? (r : Registry) (name qualified : String) (d : Declaration)
    (body : Named Thing) (above : Option Fault) : Option Fault :=
  let needs := d.needs.map (boundIn name ∘ Text.normalForm)
  if !needs.isEmpty then some (.missingArguments (qualified ++ ".__init__()") needs)
  else
    match d.raises, body.lookup initialName with
    | some raised, _ => some (.raised raised)
    | none, some t => initialRefusal? r t
    | none, none => above

/-- What a constructor makes that hands a new instance of a class to the one above. Only decorators
take one. -/
def wrapping (r : Registry) (above : Class) (inner : Thing) : Except Fault Product := do
  let _ ← r.call inner []
  match above.construction, inner with
  | .ok (.generator (.decorated d _)), .cls id =>
    match (r.cls id).construction with
    | .ok (.generator g) => return .generator (.decorated d g)
    | _ => return .plain
  | .ok (.generator (.decorated _ _)), _ => return .plain
  | _, _ =>
    .error (.ofType "object.__init__() takes exactly one argument (the instance to initialize)")

def wrappedBy (scope : Scope) (r : Registry) (name : String) (d : Declaration) (above : Class) :
    Option (Except Fault Product) :=
  d.wraps.map (fun inner => do
    let inner := boundIn name (Text.normalForm inner)
    match scope.named? r [] inner with
    | some t => wrapping r above t
    | none => .error (.undefinedName inner))

/-- Whether a call with a class gives the same thing every time, unless the registry says otherwise:
what is no class does, and so does the class of truth values or a plugin's class that hands out its
instances. -/
def isRepeating (r : Registry) : Thing → Bool
  | .cls id =>
    if id < standingClasses.length then id == classNumber "bool"
    else ((r.cls id).construction matches .ok (.existing _) : Bool)
  | _ => true

def makerOf (r : Registry) (self : ClassId) (t : Thing) : Except Fault Product := do
  let made := r.classOf (← r.call t [.cls self])
  return if (r.repeats t).getD (isRepeating r t) then .existing made else .other made

def placeFor (r : Registry) (name : String) (body : Named Thing) (v : Value) :
    Except Fault String :=
  match v.text? with
  | none => .error (.badClass (.placeNotText (r.kindName (.ofValue v))))
  | some s =>
    let bound := boundIn name s
    if !Identifier.isIdentifier s.toList then .error (.badClass .placeNotName)
    else if (body.lookup bound).isSome then .error (.badClass (.placeBound s))
    else .ok bound

def placesOf (r : Registry) (name : String) (body : Named Thing) :
    Except Fault (Option (List String)) :=
  match body.lookup placesName with
  | none => .ok none
  | some t =>
    match t.text?, t.elements? with
    | some s, _ => do return some [← placeFor r name body (.text s)]
    | none, some vs => do return some (← vs.mapM (placeFor r name body))
    | none, none => .error (.notIterable (r.kindName t))

/-- What a class holds itself: what its body binds, the functions that its declaration asks for, the
marks of its kind and the places of its instances. Nothing that an ancestor keeps is kept twice. -/
def membersOf (r : Registry) (d : Declaration) (ancestors : List ClassId) (isMarked : Bool)
    (body : Named Thing) (places : Option (List String)) : Named Member :=
  let asked :=
    (if d.script.isSome then [(methodName, Thing.function [])] else []) ++
    (if d.needs.isEmpty && d.raises.isNone && d.wraps.isNone then []
      else [(initialName, Thing.function [])])
  let body := asked.foldl (fun body entry => body.bind entry.1 entry.2) body
  let isKept (name : String) : Bool :=
    ancestors.any (fun id => ((r.cls id).members.lookup name).isSome)
  let kept := match places with
    | some names => Catalogue.each (.cell none) names
    | none => Catalogue.keeping.filter (fun entry => !isKept entry.1)
  (if isMarked then Catalogue.abstractMarks else []) ++
    (body.unbind qualifiedName).map (fun entry => (entry.1, Member.ofThing entry.2)) ++
    kept ++ Catalogue.nulls [docName]

def factsOf (isMarked : Bool) (body : Named Thing) : Named Thing :=
  let marks : Named Thing := if isMarked then [(abstractName, .ofKind "frozenset")] else []
  let stated := [placeName, docName, typingName, abstractName]
  marks ++ body.filter (fun entry => stated.contains entry.1) ++ [(typingName, .ofKind "dict")]

def headFault? (r : Registry) (slots : List Slot) (body : Named Thing) : Option Fault :=
  match (body.lookup qualifiedName).filter (·.text?.isNone) with
  | some t => some (.badClass (.notName (r.kindName t)))
  | none =>
    (slots.find? (fun slot => decide (1 < slots.count slot))).map
      (.badClass <| .repeatedBase ·.contractName)

def baseOf (r : Registry) : Option Thing → Except Fault (Option ClassId)
  | none => .ok none
  | some (.cls id) =>
    if (r.cls id).isFinal then .error (.badClass (.finalBase (r.cls id).name)) else .ok (some id)
  | some t => .error (.badClass (.notClass (r.kindName t)))

def heirFault? (r : Registry) (base : ClassId) : Option Fault :=
  match r.member? base heirName with
  | some (_, { role := .plain t, .. }) => refusalOf? r t
  | _ => none

/-- What a class makes of what its base makes, unless it answers for names otherwise. -/
def Product.inherited (answers : Bool) : Product → Product
  | .generator g => if answers then .plain else .generator g
  | .other _ | .existing _ => .plain
  | product => product

/-- What construction without arguments gives. What makes the instances counts before an abstract
method, and that before the constructor. -/
def constructionOf (c : Class) (product : Product) : Except Fault Product :=
  match c.maker, c.refusal with
  | some outcome, _ => outcome
  | none, refusal =>
    if c.isAbstract then .error (.abstractClass c.name)
    else match refusal with
      | some fault => .error fault
      | none => .ok product

def declare (scope : Scope) (r : Registry) (name : String) (d : Declaration)
    (base : Option ClassId) (body : Named Thing) (places : Option (List String)) : Class :=
  let qualified := scope.qualified name
  let above : Class := (base.map r.cls).getD default
  let slots := if base.isSome then above.slots else d.slots
  let kind :=
    if base.isSome then above.kind else if slots.isEmpty then plainKind else abstractKind
  let isMarked := kind == abstractKind
  let ancestors := match base with
    | some id => id :: above.ancestors
    | none =>
      d.slots.map contractClass ++ (if isMarked then [abstractClass] else []) ++ [objectClass]
  let isAsked := (body.lookup methodName).isSome
  let wrapped := wrappedBy scope r name d above
  let c : Class :=
    { name
      qualifiedName := ((body.lookup Plugin.qualifiedName).bind Thing.text?).getD qualified
      module := ((body.lookup placeName).map Thing.display).getD scope.moduleName
      kind
      slots
      ancestors
      members := membersOf r d ancestors isMarked body places
      facts := factsOf isMarked body
      script := d.script.or (if isAsked then none else above.script)
      isAbstract :=
        !slots.isEmpty && d.script.isNone && !isAsked && (base.isNone || above.isAbstract)
      maker := match body.lookup makerName with
        | some t => some (makerOf r r.classes.size t)
        | none => above.maker
      refusal := match wrapped with
        | some (.error fault) => some fault
        | some (.ok _) => none
        | none => constructorRefusal? r name qualified d body above.refusal }
  let (id, known) := r.addClass c
  let answers := (known.hook? (.item id []) id readerName).isSome
  let product := match c.script, wrapped.getD above.construction with
    | some script, _ => if answers then .plain else .generator (.base script.base)
    | none, .ok product => product.inherited (isAsked || answers)
    | none, .error _ => .plain
  { c with
    construction := constructionOf c product
    stated := known.statedBy id }

def makeClass (scope : Scope) (r : Registry) (name : String) (d : Declaration)
    (parent : Option Thing) (body : Named Thing) : Except Fault Class := do
  let base ← baseOf r parent
  let places ← placesOf r name body
  let slots := if base.isSome then [] else d.slots
  match (headFault? r slots body).or (base.bind (heirFault? r)) with
  | some fault => .error fault
  | none => return declare scope r name d base body places

end SchemaNaming.Plugin
