import SchemaNaming.Proofs.Pipeline.Occupants

/-!
Names that the standard generators of a configured pipeline give. A configuration only takes a
separator at which no identifier could be cut and a digit prefix that is an identifier led by a
letter, whatever its file holds. So every name is an identifier led by a letter. It is in upper
camel case, and without low lines but for those of enumeration members, unless it begins with a
prefix that is not: the letter case of the prefix is not looked at.
-/

namespace SchemaNaming

namespace Config

/-- Options that have passed their tests. -/
structure IsSound (n : NamingOptions) : Prop where
  separates : isSeparator n.separator = true
  leads : isDigitPrefix n.digitPrefix = true

theorem accepted_ok {test : Value → Bool} {fallback : String}
    (passes : test (.text fallback) = true)
    (run : accepted test what fallback v h = (.ok w, h')) : test w = true := by
  rw [accepted] at run
  split at run
  · rename_i passed
    cases run
    exact passed
  · split at run
    · cases run
    · cases run
      exact passes

theorem namingOf_ok (run : namingOf entries h = (.ok n, h')) : IsSound n := by
  have dash : isSeparator (.text "-") = true := by decide +kernel
  have letter : isDigitPrefix (.text "N") = true := by decide +kernel
  obtain ⟨_, _, _, run⟩ := Run.bind_eq_ok.mp run
  obtain ⟨separator, _, separates, run⟩ := Run.bind_eq_ok.mp run
  obtain ⟨_, _, _, run⟩ := Run.bind_eq_ok.mp run
  obtain ⟨digitPrefix, _, leads, run⟩ := Run.bind_eq_ok.mp run
  cases run
  exact ⟨accepted_ok dash separates, accepted_ok letter leads⟩

theorem read_ok (run : read given h = (.ok c, h')) : IsSound c.naming := by
  obtain ⟨_, _, _, run⟩ := Run.bind_eq_ok.mp run
  obtain ⟨_, _, _, run⟩ := Run.bind_eq_ok.mp run
  obtain ⟨_, _, _, run⟩ := Run.bind_eq_ok.mp run
  obtain ⟨_, _, _, run⟩ := Run.bind_eq_ok.mp run
  obtain ⟨_, _, naming, run⟩ := Run.bind_eq_ok.mp run
  obtain ⟨_, _, _, run⟩ := Run.bind_eq_ok.mp run
  cases run
  exact namingOf_ok naming

end Config

namespace Normalizer
open Text Identifier

variable {slot : Slot} {separator digitPrefix : String} {s : Char} {raw : List Char}

/-- A name of a slot. Only a prefix in front of it can spoil its letter case or bring low lines in
that come from no point of a member's raw name. -/
structure IsNameOf (slot : Slot) (lead name : List Char) : Prop where
  identifier : isIdentifier name = true
  letterLed : isLetterLed name = true
  camel : hasUpperHead lead = true ∨ ¬ lead <+: name → isUpperCamel name = true
  plain : '_' ∉ lead ∨ ¬ lead <+: name → slot ≠ .enum → '_' ∉ name

theorem isUpperCamel_append (camel : isUpperCamel cs = true)
    (parts : ∀ c ∈ ds, isIdentifierPart c = true) : isUpperCamel (cs ++ ds) = true := by
  simp only [isUpperCamel, Bool.and_eq_true] at camel ⊢
  exact ⟨⟨isIdentifier_append camel.1.1 parts, isLetterLed_append camel.1.2 ds⟩,
    hasUpperHead_append camel.2 ds⟩

theorem lowLine_notMem_finish (cased : Cased slot cs) (other : slot ≠ .enum) :
    '_' ∉ cs.map slot.finish := by
  have unkept : cs.countP slot.keeps = 0 :=
    List.countP_eq_zero.mpr fun c _ keeps => other (Slot.keeps_iff.mp keeps).1
  exact List.count_eq_zero.mp ((count_map_finish cased).trans unkept)

theorem form_isNameOf (single : separator.toList = [s]) (lead : IsLead digitPrefix)
    (some : (forSlot slot separator digitPrefix).form raw ≠ []) :
    IsNameOf slot digitPrefix.toList ((forSlot slot separator digitPrefix).form raw) := by
  have cased := cased_body slot s raw
  obtain ⟨identifier, led⟩ := form_identifier single lead some
  refine ⟨identifier, led, ?_, ?_⟩
  · rintro (head | unled)
    · exact form_isUpperCamel single lead head some
    · rcases form_cases single lead some with ⟨bodyLed, same⟩ | same
      · rw [same]
        exact isUpperCamel_finish cased bodyLed
      · exact absurd (same ▸ List.prefix_append _ _) unled
  · intro plain other
    rcases form_cases single lead some with ⟨_, same⟩ | same
    · rw [same]
      exact lowLine_notMem_finish cased other
    · rcases plain with plain | unled
      · rw [same, List.mem_append, not_or]
        exact ⟨plain, lowLine_notMem_finish cased other⟩
      · exact absurd (same ▸ List.prefix_append _ _) unled

theorem IsNameOf.append (name : IsNameOf slot lead cs)
    (parts : ∀ c ∈ ds, isIdentifierPart c = true) (noLow : '_' ∉ ds) :
    IsNameOf slot lead (cs ++ ds) := by
  have shorter : ¬ lead <+: cs ++ ds → ¬ lead <+: cs :=
    fun unled led => unled (led.trans (List.prefix_append cs ds))
  refine ⟨isIdentifier_append name.identifier parts, isLetterLed_append name.letterLed ds,
    fun condition => ?_, fun condition other => ?_⟩
  · exact isUpperCamel_append (name.camel (condition.imp_right shorter)) parts
  · rw [List.mem_append, not_or]
    exact ⟨name.plain (condition.imp_right shorter) other, noLow⟩

end Normalizer

@[simp] theorem Decorator.withSeparator_digitPrefix (slot : Slot) (separator : Value)
    (digitPrefix : String) :
    (withSeparator slot separator digitPrefix).digitPrefix = digitPrefix := by
  cases separator <;> rfl

theorem Generator.ask_decorated_isNameOf {d : Decorator} {inner : Generator} (sound : d.IsSound)
    (answered : ((decorated d inner).ask request).1.result = .ok v) :
    ∃ name, v = .text name ∧
      Normalizer.IsNameOf request.slot d.digitPrefix.toList name.toList := by
  obtain ⟨sameSlot, raw, name, _, named, rfl⟩ := ask_decorated_ok answered
  obtain ⟨c, single⟩ := sound.single
  rw [Decorator.normalizer_eq sound.plain] at named
  obtain ⟨text, some⟩ := Normalizer.normalize_ok named
  obtain ⟨number, numbered, parts, noLow, _⟩ :=
    Decorator.settle_eq_append (Decorator.received request) name
  refine ⟨_, rfl, ?_⟩
  rw [numbered, text, sameSlot]
  exact (Normalizer.form_isNameOf single sound.lead some).append parts noLow

theorem Pipeline.ofConfig_ok (made : ofConfig c h = (.ok p, h')) (slot : Slot) :
    h'.plugins.IsStandard (p.occupants.get slot)
      (.withSeparator slot c.naming.separator c.naming.digitPrefix.display) := by
  obtain ⟨_, _, _, made⟩ := Run.bind_eq_ok.mp made
  obtain ⟨occupants, _, filled, created⟩ := Run.bind_eq_ok.mp made
  obtain ⟨same, still⟩ := create_ok created
  rw [same, still]
  exact fill_ok filled slot

namespace PipelineCall
open Plugin Pipeline

/-- Every name that a configured pipeline gives with a generator that no override has replaced is a
name of its slot, for the digit prefix that the configuration has accepted. -/
theorem afterAll_generate_isNameOf {given : Option String} {c : Config} {p : Pipeline}
    {h h₁ h₂ : Host} (loaded : Config.read given h = (.ok c, h₁))
    (made : Pipeline.ofConfig c h₁ = (.ok p, h₂)) (calls : List PipelineCall) {request : Request}
    (stays : (afterAll calls (p, h₂)).1.occupants.get request.slot = p.occupants.get request.slot)
    {v : Value} {s' : Pipeline × Host}
    (answered : Pipeline.generate request (afterAll calls (p, h₂)) = (.ok v, s')) :
    ∃ name, v = .text name ∧ Normalizer.IsNameOf request.slot
      c.naming.digitPrefix.display.toList name.toList := by
  obtain ⟨separates, leads⟩ := Config.read_ok loaded
  have stood := Pipeline.ofConfig_ok made request.slot
  obtain ⟨asked, stands⟩ := stood.of_asksOnly (afterAll_asksOnly calls (p, h₂))
  have sound : (Decorator.withSeparator request.slot c.naming.separator
      c.naming.digitPrefix.display).IsSound := Decorator.isSound_withSeparator separates leads
  have reply :
      (ask (p.occupants.get request.slot) request (afterAll calls (p, h₂)).2).1 = .ok v := by
    rw [← stays]
    exact congrArg Prod.fst answered
  rw [(ask_generator stands request).1] at reply
  obtain ⟨name, same, isName⟩ := Generator.ask_decorated_isNameOf sound reply
  rw [Decorator.withSeparator_digitPrefix] at isName
  exact ⟨name, same, isName⟩

/-- The name that the configured pipeline of a host gives behind calls, if its slot is as it was,
and the digit prefix of the configuration. -/
def nameBehind? (calls : List PipelineCall) (request : Request) (h : Host) :
    Option (String × String) :=
  match Config.read none h with
  | (.error _, _) => none
  | (.ok c, h₁) =>
    match Pipeline.ofConfig c h₁ with
    | (.error _, _) => none
    | (.ok p, h₂) =>
      let s := afterAll calls (p, h₂)
      match Pipeline.generate request s with
      | (.ok (.text name), _) =>
        if s.1.occupants.get request.slot = p.occupants.get request.slot then
          some (name, c.naming.digitPrefix.display)
        else none
      | _ => none

theorem nameBehind?_eq_some (named : nameBehind? calls request h = some (name, digitPrefix)) :
    ∃ c h₁ p h₂ s', Config.read none h = (.ok c, h₁) ∧ Pipeline.ofConfig c h₁ = (.ok p, h₂) ∧
      (afterAll calls (p, h₂)).1.occupants.get request.slot = p.occupants.get request.slot ∧
      Pipeline.generate request (afterAll calls (p, h₂)) = (.ok (.text name), s') ∧
      c.naming.digitPrefix.display = digitPrefix := by
  rw [nameBehind?] at named
  split at named
  · contradiction
  · rename_i c h₁ loaded
    split at named
    · contradiction
    · rename_i p h₂ made
      dsimp only at named
      split at named
      · rename_i other s' answered
        split at named
        · rename_i stays
          obtain ⟨rfl, same⟩ := Prod.mk.inj (Option.some.inj named)
          exact ⟨c, h₁, p, h₂, s', loaded, made, stays, answered, same⟩
        · contradiction
      · contradiction

/-- A host with a text as its configuration, and with an override for types. -/
def configuredHost (text : String) : Host :=
  let generator : Plugin.Item := .cls "G" { slots := [.type], script := some default } []
  { files := { nodes := [(["namegen.json"], .file (.text text)),
      (["m.py"], .file (.source (.items [generator])))] }
    environment := [(Config.overrideVariable .type, "m.py:G")] }

/-- A prefix of two words, behind an override for another slot. -/
theorem afterAll_generate_isNameOf_words :
    let h := configuredHost "\x7b\"naming\": \x7b\"digit_prefix\": \"Item_No\"\x7d\x7d"
    let calls := [.applyOverrides]
    let request : Request := .property (some "1st")
    ∃ c h₁ p h₂ s', Config.read none h = (.ok c, h₁) ∧ Pipeline.ofConfig c h₁ = (.ok p, h₂) ∧
      (afterAll calls (p, h₂)).1.occupants.get .property = p.occupants.get .property ∧
      Pipeline.generate request (afterAll calls (p, h₂)) = (.ok (.text "Item_No1st"), s') ∧
      Normalizer.IsNameOf .property c.naming.digitPrefix.display.toList "Item_No1st".toList := by
  intro h calls request
  have named : nameBehind? calls request h = some ("Item_No1st", "Item_No") := by decide +kernel
  obtain ⟨c, h₁, p, h₂, s', loaded, made, stays, answered, _⟩ := nameBehind?_eq_some named
  refine ⟨c, h₁, p, h₂, s', loaded, made, stays, answered, ?_⟩
  obtain ⟨name, same, isName⟩ := afterAll_generate_isNameOf loaded made calls stays answered
  obtain rfl := Value.text.inj same
  exact isName

/-- The tests of the options do not put every name in upper camel case: a prefix that begins with a
small letter passes them, and so does one with a low line. -/
theorem generate_not_isUpperCamel :
    (¬ ∀ (h h₁ h₂ : Host) (c : Config) (p : Pipeline) (request : Request) (name : String)
      (s' : Pipeline × Host), Config.read none h = (.ok c, h₁) →
      Pipeline.ofConfig c h₁ = (.ok p, h₂) →
      Pipeline.generate request (p, h₂) = (.ok (.text name), s') →
      Identifier.isUpperCamel name.toList = true) ∧
    ¬ ∀ (h h₁ h₂ : Host) (c : Config) (p : Pipeline) (request : Request) (name : String)
      (s' : Pipeline × Host), Config.read none h = (.ok c, h₁) →
      Pipeline.ofConfig c h₁ = (.ok p, h₂) →
      Pipeline.generate request (p, h₂) = (.ok (.text name), s') →
      request.slot ≠ .enum → '_' ∉ name.toList := by
  let request : Request := .property (some "1st")
  refine ⟨fun all => ?_, fun all => ?_⟩
  · let h := configuredHost "\x7b\"naming\": \x7b\"digit_prefix\": \"n\"\x7d\x7d"
    have named : nameBehind? [] request h = some ("n1st", "n") := by decide +kernel
    obtain ⟨c, h₁, p, h₂, s', loaded, made, _, answered, _⟩ := nameBehind?_eq_some named
    have camel := all h h₁ h₂ c p request _ s' loaded made answered
    exact absurd camel (by decide +kernel)
  · let h := configuredHost "\x7b\"naming\": \x7b\"digit_prefix\": \"N_\"\x7d\x7d"
    have named : nameBehind? [] request h = some ("N_1st", "N_") := by decide +kernel
    obtain ⟨c, h₁, p, h₂, s', loaded, made, _, answered, _⟩ := nameBehind?_eq_some named
    exact all h h₁ h₂ c p request _ s' loaded made answered Slot.noConfusion (by decide)

end PipelineCall

end SchemaNaming
