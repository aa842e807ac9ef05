import SchemaNaming.Proofs.Plugin.DescriptorForms

/-!
Names in front of a type inside a module. A descriptor may put the module's own name before a type, or
the stem of its file. The name is taken off again, and what remains denotes the type, unless the name
is the stem and the module's own name stands there as well: that one counts first.
-/

namespace SchemaNaming

namespace Descriptor

instance (front name : String) : Decidable (IsFront front name) :=
  inferInstanceAs (Decidable (front.toList ++ ['.'] <+: name.toList))

theorem isFront_iff_parts {front name : String} :
    IsFront front name ↔ ∃ rest, rest ≠ [] ∧ parts name = parts front ++ rest := by
  constructor
  · rintro ⟨rest, same⟩
    have whole : name = front ++ "." ++ String.ofList rest := by
      apply String.toList_inj.mp
      rw [toList_point, String.toList_ofList, ← same]
      simp
    exact ⟨parts (String.ofList rest), parts_ne_nil _, by rw [whole, parts_point]⟩
  · rintro ⟨rest, some, split⟩
    have front := isFront_append (parts_ne_nil front) some
    rwa [← split, dotted_parts, dotted_parts] at front

end Descriptor

namespace Plugin
open Descriptor (IsFront)

variable {r : Registry} {h h₁ : Host} {id : ModuleId} {d e : Descriptor}
variable {name front inner : String} {stem : Option String}

/-- What a module goes by inside descriptors: its own name, and the stem of its file if it has one. -/
structure IsKnownAs (r : Registry) (id : ModuleId) (name : String) (stem : Option String) : Prop where
  title : (r.module id).title.text? = some name
  stem : stemAlias r (((r.module id).own? fileName).getD .null) =
    .ok (stem.map fun s => .value (.text s))

theorem IsKnownAs.aliases_eq (known : IsKnownAs r id name stem) :
    aliases r (r.module id) =
      .ok ((r.module id).title :: stem.toList.map fun s => .value (.text s)) := by
  simp only [aliases, known.stem, bind, Except.bind]
  cases stem <;> rfl

variable {t : Thing} {names : List String}

theorem withoutAlias_text (text : t.text? = some name) (r : Registry) (names : List String)
    (others : List Thing) :
    withoutAlias r names (t :: others) =
      if (Descriptor.parts name).length < names.length ∧
          names.take (Descriptor.parts name).length = Descriptor.parts name then
        .ok (names.drop (Descriptor.parts name).length)
      else withoutAlias r names others := by
  have read : aliasParts r t = .ok (some (Descriptor.parts name)) := by
    rw [aliasParts, text]
    rfl
  simp only [withoutAlias, read, bind, Except.bind, Option.getD_some, Bool.and_eq_true,
    decide_eq_true_eq, beq_iff_eq]
  rfl

theorem withoutAlias_front (text : t.text? = some name) {rest : List String} (some : rest ≠ [])
    (others : List Thing) :
    withoutAlias r (Descriptor.parts name ++ rest) (t :: others) = .ok rest := by
  have longer : (Descriptor.parts name).length < (Descriptor.parts name ++ rest).length := by
    have filled := List.length_pos_iff.mpr some
    rw [List.length_append]
    omega
  rw [withoutAlias_text text, if_pos ⟨longer, List.take_left⟩, List.drop_left]

theorem withoutAlias_other (text : t.text? = some name)
    (other : ¬ ∃ rest, rest ≠ [] ∧ names = Descriptor.parts name ++ rest) (others : List Thing) :
    withoutAlias r names (t :: others) = withoutAlias r names others := by
  rw [withoutAlias_text text]
  apply if_neg
  rintro ⟨longer, taken⟩
  refine other ⟨names.drop (Descriptor.parts name).length, ?_, ?_⟩
  · intro none
    have short := List.drop_eq_nil_iff.mp none
    omega
  · calc names = names.take _ ++ names.drop (Descriptor.parts name).length :=
        (List.take_append_drop _ _).symm
      _ = Descriptor.parts name ++ names.drop _ := by rw [taken]

theorem relativePath_of_hidden
    (hidden : ∀ first ∈ (Descriptor.parts front).head?, r.moduleAttribute id first = .ok none)
    (known : IsKnownAs r id name stem) (inner : String) :
    relativePath r id (front ++ "." ++ inner) =
      withoutAlias r (Descriptor.parts front ++ Descriptor.parts inner)
        ((r.module id).title :: stem.toList.map fun s => .value (.text s)) := by
  rw [relativePath, Descriptor.parts_point]
  rcases split : Descriptor.parts front with _ | ⟨first, others⟩
  · exact absurd split (Descriptor.parts_ne_nil front)
  · obtain ⟨second, rest, shape⟩ : ∃ second rest, others ++ Descriptor.parts inner = second :: rest :=
      List.exists_cons_of_ne_nil (by simp [Descriptor.parts_ne_nil])
    have none := hidden first (by rw [split]; rfl)
    rw [List.cons_append, shape]
    simp only [none, known.aliases_eq, bind, Except.bind]

theorem relativePath_title (known : IsKnownAs r id name stem)
    (hidden : ∀ first ∈ (Descriptor.parts name).head?, r.moduleAttribute id first = .ok none)
    (inner : String) :
    relativePath r id (name ++ "." ++ inner) = .ok (Descriptor.parts inner) := by
  rw [relativePath_of_hidden hidden known]
  exact withoutAlias_front known.title (Descriptor.parts_ne_nil inner) _

theorem relativePath_stem (known : IsKnownAs r id name (some front))
    (hidden : ∀ first ∈ (Descriptor.parts front).head?, r.moduleAttribute id first = .ok none)
    (apart : ¬ IsFront name (front ++ "." ++ inner)) :
    relativePath r id (front ++ "." ++ inner) = .ok (Descriptor.parts inner) := by
  rw [Descriptor.isFront_iff_parts, Descriptor.parts_point] at apart
  rw [relativePath_of_hidden hidden known, withoutAlias_other known.title apart]
  exact withoutAlias_front rfl (Descriptor.parts_ne_nil inner) _

theorem relativePath_front (known : IsKnownAs r id name stem)
    (hidden : ∀ first ∈ (Descriptor.parts front).head?, r.moduleAttribute id first = .ok none)
    (fronted : IsFront name (front ++ "." ++ inner)) :
    ∃ rest, Descriptor.parts front ++ Descriptor.parts inner = Descriptor.parts name ++ rest ∧
      relativePath r id (front ++ "." ++ inner) = .ok rest := by
  obtain ⟨rest, some, split⟩ := Descriptor.isFront_iff_parts.mp fronted
  rw [Descriptor.parts_point] at split
  refine ⟨rest, split, ?_⟩
  rw [relativePath_of_hidden hidden known, split]
  exact withoutAlias_front known.title some _

theorem relativePath_alias_iff (known : IsKnownAs r id name stem)
    (named : front = name ∨ stem = some front)
    (hidden : ∀ first ∈ (Descriptor.parts front).head?, r.moduleAttribute id first = .ok none) :
    relativePath r id (front ++ "." ++ inner) = .ok (Descriptor.parts inner) ↔
      front = name ∨ ¬ IsFront name (front ++ "." ++ inner) := by
  by_cases same : front = name
  · subst same
    exact iff_of_true (relativePath_title known hidden inner) (.inl rfl)
  · by_cases fronted : IsFront name (front ++ "." ++ inner)
    · refine iff_of_false (fun denoted => ?_) (by simp [same, fronted])
      obtain ⟨rest, split, taken⟩ := relativePath_front known hidden fronted
      -- The same path behind both names means that both have the same parts.
      obtain rfl := Except.ok.inj (denoted.symm.trans taken)
      have names := List.append_cancel_right split
      apply same
      rw [← Descriptor.dotted_parts front, names, Descriptor.dotted_parts]
    · obtain rfl := named.resolve_left same
      exact iff_of_true (relativePath_stem known hidden fronted) (.inr fronted)

/-- The class at the end of a path of attributes, or why there is none. -/
def classAt (r : Registry) (id : ModuleId) (path : List String) :
    Except Fault (Except TypeReason ClassId) := do
  match ← walkAttributes r (.module id) path with
  | none => return .error (.notInModule (← (r.module id).title.written))
  | some (.cls cls) => return .ok cls
  | some _ => return .error .notClass

/-- What a descriptor denotes that leads to such an end. -/
def Descriptor.denoted (d : Descriptor) : Except Fault (Except TypeReason ClassId) →
    Except Failure ClassId
  | .error fault => .error (.of fault)
  | .ok (.error reason) => .error (.of (.typeNotFound d.text d.typeName reason))
  | .ok (.ok cls) => .ok cls

theorem typeOf_placed {path : List String} (placed : placeOf d h = (.ok (id, path), h₁)) :
    typeOf d h = (Descriptor.denoted d (classAt h₁.plugins id path), h₁) := by
  rw [typeOf, Run.bind_apply, placed]
  dsimp only
  rw [registry_bind, classAt]
  rcases walkAttributes h₁.plugins (.module id) path with fault | _ | t
  · rfl
  · rw [Run.bind_apply, Run.check_ok]
    dsimp only
    rw [Run.bind_apply]
    cases (h₁.plugins.module id).title.written <;> rfl
  · cases t <;> rfl

/-- Two descriptors denote the same class, or denote none for the same reason, and leave the same
behind. -/
structure DenoteAlike (d e : Descriptor) (h : Host) : Prop where
  left : (typeOf d h).2 = (typeOf e h).2
  denoted : ∃ ends, (typeOf d h).1 = Descriptor.denoted d ends ∧
    (typeOf e h).1 = Descriptor.denoted e ends

theorem DenoteAlike.of_placed {path : List String} (first : placeOf d h = (.ok (id, path), h₁))
    (second : placeOf e h = (.ok (id, path), h₁)) : DenoteAlike d e h := by
  constructor
  · rw [typeOf_placed first, typeOf_placed second]
  · exact ⟨classAt h₁.plugins id path, by rw [typeOf_placed first], by rw [typeOf_placed second]⟩

theorem concludeAssembly_ok_any {path assembly text : String} {number : ModuleId}
    {outcome : Except Failure Unit}
    (concluded : concludeAssembly path assembly text number outcome h = (.ok id, h₁))
    (other : String) : concludeAssembly path assembly other number outcome h = (.ok id, h₁) := by
  cases outcome with
  | ok _ => exact concluded
  | error failure =>
    rw [concludeAssembly] at concluded
    split at concluded <;> cases concluded

theorem executeAssembly_ok_any {path assembly text file : String} {search : Option (List String)}
    (executed : executeAssembly path assembly text file search h = (.ok id, h₁)) (other : String) :
    executeAssembly path assembly other file search h = (.ok id, h₁) := by
  obtain ⟨number, u₁, added, executed⟩ := Run.bind_eq_ok.mp executed
  obtain ⟨_, u₂, entered, executed⟩ := Run.bind_eq_ok.mp executed
  obtain ⟨_, u₃, looked, executed⟩ := Run.bind_eq_ok.mp executed
  obtain ⟨outcome, u₄, run, concluded⟩ := Run.bind_eq_ok.mp executed
  refine Run.bind_eq_ok.mpr ⟨number, u₁, added, ?_⟩
  refine Run.bind_eq_ok.mpr ⟨_, u₂, entered, ?_⟩
  refine Run.bind_eq_ok.mpr ⟨_, u₃, looked, ?_⟩
  exact Run.bind_eq_ok.mpr ⟨outcome, u₄, run, concludeAssembly_ok_any concluded other⟩

theorem loadAssembly_ok_any {assembly text : String}
    (loaded : loadAssembly assembly text h = (.ok id, h₁)) (other : String) :
    loadAssembly assembly other h = (.ok id, h₁) := by
  cases isPath : looksLikePath h assembly with
  | true =>
    obtain ⟨real, leads⟩ := isPathTo_of_loadAssembly isPath loaded
    obtain ⟨shown, run⟩ := leads.loadAssembly_apply text
    obtain ⟨shown', run'⟩ := leads.loadAssembly_apply other
    rw [run] at loaded
    rw [run']
    cases cached : h.plugins.assemblies.lookup real with
    | some known =>
      rw [cached] at loaded
      exact loaded
    | none =>
      rw [cached] at loaded
      dsimp only at loaded ⊢
      cases located : locationOf h real with
      | error reason =>
        rw [located] at loaded
        cases loaded
      | ok found =>
        rw [located] at loaded
        dsimp only at loaded ⊢
        cases library : libraryFault? h found.1 with
        | some fault =>
          rw [library] at loaded
          cases loaded
        | none =>
          rw [library] at loaded
          exact executeAssembly_ok_any loaded shown'
  | false =>
    obtain ⟨shown, run⟩ := loadAssembly_named isPath text
    obtain ⟨shown', run'⟩ := loadAssembly_named isPath other
    rw [run, loadByName, registry_bind] at loaded
    rw [run', loadByName, registry_bind]
    cases entered : h.plugins.table.lookup assembly with
    | some number =>
      rw [entered] at loaded
      exact loaded
    | none =>
      rw [entered] at loaded
      obtain ⟨number, middle, imported, concluded⟩ := Run.bind_eq_ok.mp loaded
      exact Run.bind_eq_ok.mpr
        ⟨number, middle, Run.wrapping_eq_ok.mpr (Run.wrapping_eq_ok.mp imported), concluded⟩

theorem placeOf_of_loaded {assembly text : String} {path : List String}
    (loaded : loadAssembly assembly text h = (.ok id, h₁)) (within : d.assembly = some assembly)
    (denoted : relativePath h₁.plugins id d.typeName = .ok path) :
    placeOf d h = (.ok (id, path), h₁) :=
  (placeOf_within within).mpr ⟨loadAssembly_ok_any loaded d.text, denoted⟩

/-- A name of a module in front of a type in it is taken off: what remains is the path of the type, and
with and without the name a descriptor denotes the same. It is not so exactly where the name is the
stem and the module's own name, which is another one, stands in front as well; the path is then what
stands behind that. -/
theorem typeOf_alias {assembly text : String}
    (loaded : loadAssembly assembly text h = (.ok id, h₁))
    (known : IsKnownAs h₁.plugins id name stem) (named : front = name ∨ stem = some front)
    (hidden : ∀ first ∈ (Descriptor.parts front).head?,
      h₁.plugins.moduleAttribute id first = .ok none)
    (shown : ∀ first ∈ (Descriptor.parts inner).head?, h₁.plugins.gives id first) :
    (relativePath h₁.plugins id (front ++ "." ++ inner) = .ok (Descriptor.parts inner) ↔
      front = name ∨ ¬ IsFront name (front ++ "." ++ inner)) ∧
    (IsFront name (front ++ "." ++ inner) →
      ∃ rest, Descriptor.parts front ++ Descriptor.parts inner = Descriptor.parts name ++ rest ∧
        relativePath h₁.plugins id (front ++ "." ++ inner) = .ok rest) ∧
    (front = name ∨ ¬ IsFront name (front ++ "." ++ inner) →
      ∀ d e : Descriptor, d.assembly = some assembly → e.assembly = some assembly →
        d.typeName = front ++ "." ++ inner → e.typeName = inner → DenoteAlike d e h) := by
  refine ⟨relativePath_alias_iff known named hidden, relativePath_front known hidden, ?_⟩
  intro apart d e within without prefixed alone
  have denoted := (relativePath_alias_iff known named hidden).mpr apart
  rw [← prefixed] at denoted
  have direct : relativePath h₁.plugins id e.typeName = .ok (Descriptor.parts inner) := by
    rw [alone]
    exact relativePath_of_attribute shown
  exact .of_placed (placeOf_of_loaded loaded within denoted)
    (placeOf_of_loaded loaded without direct)

/-- A module that ends its own name with the name of the package it is in, and goes on with a class
named as the package between. -/
def echoingModule : Host where
  files.nodes :=
    let file (items : List Item) : Node := .file (.source (.items items))
    let generator : Item := .cls "G" { slots := [.type], script := some default } []
    [(["site"], .directory), (["site", "p"], .directory), (["site", "p", "q"], .directory),
     (["site", "p", "__init__.py"], file []), (["site", "p", "q", "__init__.py"], file []),
     (["site", "p", "q", "p.py"], file [.cls "q" {} [.cls "p" {} [generator]]])]
  searchPath := ["/site"]

theorem eq_ok_of_text? {ε : Type} {outcome : Except ε (Option Thing)}
    (text : outcome.toOption.join.bind Thing.text? = some s) :
    outcome = .ok (some (.value (.text s))) := by
  rcases outcome with fault | _ | t
  · contradiction
  · contradiction
  · cases t with
    | value v =>
      cases v with
      | text other =>
        obtain rfl : other = s := Option.some.inj text
        rfl
      | _ => contradiction
    | _ => contradiction

theorem eq_ok_none_of_isNone {ε : Type} {outcome : Except ε (Option α)}
    (absent : outcome.toOption.any Option.isNone = true) : outcome = .ok none := by
  rcases outcome with fault | _ | a
  · contradiction
  · rfl
  · contradiction

theorem echoingModule_loaded :
    let run := loadAssembly "p.q.p" "" echoingModule
    run = (.ok 2, run.2) ∧ IsKnownAs run.2.plugins 2 "p.q.p" (some "p") ∧
      (∀ first ∈ (Descriptor.parts "p").head?,
        run.2.plugins.moduleAttribute 2 first = .ok none) ∧
      ∀ inner, (Descriptor.parts inner).head? = some "q" →
        ∀ first ∈ (Descriptor.parts inner).head?, run.2.plugins.gives 2 first := by
  intro run
  obtain ⟨returns, title, stem, hidden, shown⟩ : run.1.toOption = some 2 ∧
      (run.2.plugins.module 2).title.text? = some "p.q.p" ∧
      (stemAlias run.2.plugins
        (((run.2.plugins.module 2).own? fileName).getD .null)).toOption.join.bind Thing.text? =
          some "p" ∧
      (run.2.plugins.moduleAttribute 2 "p").toOption.any Option.isNone = true ∧
      run.2.plugins.gives 2 "q" = true := by decide +kernel
  have names : (Descriptor.parts "p").head? = some "p" := by decide +kernel
  refine ⟨Prod.ext (eq_ok_of_toOption returns) rfl, ⟨title, eq_ok_of_text? stem⟩, ?_, ?_⟩
  · intro first leads
    obtain rfl := Option.some.inj (names.symm.trans leads)
    exact eq_ok_none_of_isNone hidden
  · intro inner outer first leads
    obtain rfl := Option.some.inj (outer.symm.trans leads)
    exact shown

/-- Behind the stem, the class in the class is found although that spells the name of the module, but
not what is in it. -/
theorem typeOf_alias_stem :
    let last := (loadAssembly "p.q.p" "" echoingModule).2
    let within : Descriptor := ⟨"p.q.p:p.q.p", "p" ++ "." ++ "q.p", some "p.q.p"⟩
    let without : Descriptor := ⟨"p.q.p:q.p", "q.p", some "p.q.p"⟩
    relativePath last.plugins 2 within.typeName = .ok (Descriptor.parts "q.p") ∧
      (typeOf without echoingModule).1.toBool = true ∧ DenoteAlike within without echoingModule ∧
      ∃ rest, Descriptor.parts "p" ++ Descriptor.parts "q.p.G" = Descriptor.parts "p.q.p" ++ rest ∧
        relativePath last.plugins 2 ("p" ++ "." ++ "q.p.G") = .ok rest := by
  intro last within without
  obtain ⟨loaded, known, hidden, shown⟩ := echoingModule_loaded
  have apart : ¬ IsFront "p.q.p" ("p" ++ "." ++ "q.p") := by decide +kernel
  have fronted : IsFront "p.q.p" ("p" ++ "." ++ "q.p.G") := by decide +kernel
  obtain ⟨path, -, alike⟩ :=
    typeOf_alias loaded known (.inr rfl) hidden (shown "q.p" (by decide +kernel))
  obtain ⟨-, behind, -⟩ :=
    typeOf_alias loaded known (.inr rfl) hidden (shown "q.p.G" (by decide +kernel))
  exact ⟨path.mpr (.inr apart), by decide +kernel, alike (.inr apart) within without rfl rfl rfl rfl,
    behind fronted⟩

/-- A module that gives itself an attribute before its class. -/
def relabelledModule (label : String) : Host where
  files.nodes :=
    [(["site"], .directory),
     (["site", "m.py"], .file (.source (.items
       [.const label (.value (.int 5)), .cls "A" { slots := [.type], script := some default } []])))]
  searchPath := ["/site"]

/-- A thing that a module goes by inside descriptors is a text. -/
def goesBy (r : Registry) (id : ModuleId) (front : String) : Bool :=
  (r.module id).title.text? == some front ||
    match stemAlias r (((r.module id).own? fileName).getD .null) with
    | .ok (some t) => t.text? == some front
    | _ => false

/-- Every name of every module that a load gives is taken off in front of its types, or at least what
is denoted is the same. -/
def TakesNamesOff (h : Host) : Prop :=
  ∀ (assembly text front inner : String) (id : ModuleId) (h₁ : Host),
    loadAssembly assembly text h = (.ok id, h₁) → goesBy h₁.plugins id front →
    (∀ first ∈ (Descriptor.parts front).head?, ¬ h₁.plugins.gives id first) →
    (∀ first ∈ (Descriptor.parts inner).head?, h₁.plugins.gives id first) →
    relativePath h₁.plugins id (front ++ "." ++ inner) = .ok (Descriptor.parts inner) ∨
      ∀ d e : Descriptor, d.assembly = some assembly → e.assembly = some assembly →
        d.typeName = front ++ "." ++ inner → e.typeName = inner → DenoteAlike d e h

theorem DenoteAlike.of_returns (alike : DenoteAlike d e h) (returns : (typeOf e h).1.toBool = true) :
    (typeOf d h).1.toBool = true := by
  obtain ⟨ends, first, second⟩ := alike.denoted
  rw [second] at returns
  rw [first]
  rcases ends with fault | reason | cls
  · contradiction
  · contradiction
  · rfl

theorem not_takesNamesOff (assembly front inner : String) (id : ModuleId)
    (facts : let run := loadAssembly assembly "" h
      let r := run.2.plugins
      run.1.toOption = some id ∧ goesBy r id front ∧
        (∀ first ∈ (Descriptor.parts front).head?, ¬ r.gives id first) ∧
        (∀ first ∈ (Descriptor.parts inner).head?, r.gives id first) ∧
        (relativePath r id (front ++ "." ++ inner)).toOption ≠ some (Descriptor.parts inner) ∧
        (typeOf ⟨"", front ++ "." ++ inner, some assembly⟩ h).1.toBool = false ∧
        (typeOf ⟨"", inner, some assembly⟩ h).1.toBool = true) : ¬ TakesNamesOff h := by
  intro takesOff
  obtain ⟨returns, named, hidden, shown, path, missed, found⟩ := facts
  have loaded : loadAssembly assembly "" h = (.ok id, (loadAssembly assembly "" h).2) :=
    Prod.ext (eq_ok_of_toOption returns) rfl
  rcases takesOff assembly "" front inner id _ loaded named hidden shown with denoted | alike
  · rw [denoted] at path
    exact path rfl
  · have same := alike ⟨"", front ++ "." ++ inner, some assembly⟩ ⟨"", inner, some assembly⟩ rfl rfl
      rfl rfl
    have returned := same.of_returns found
    rw [missed] at returned
    contradiction

/-- The stem is not taken off if the module's own name stands in front as well. Nor is the module's own
name if its file is no text or if it cannot be asked for attributes, nor the stem if its name is no
text. -/
theorem typeOf_alias_kept :
    ¬ TakesNamesOff echoingModule ∧ ¬ TakesNamesOff (relabelledModule fileName) ∧
      ¬ TakesNamesOff (relabelledModule titleName) ∧ ¬ TakesNamesOff (relabelledModule hookName) :=
  ⟨not_takesNamesOff "p.q.p" "p" "q.p.G" 2 (by decide +kernel),
    not_takesNamesOff "m" "m" "A" 0 (by decide +kernel),
    not_takesNamesOff "m" "m" "A" 0 (by decide +kernel),
    not_takesNamesOff "m" "m" "A" 0 (by decide +kernel)⟩

end Plugin

end SchemaNaming
