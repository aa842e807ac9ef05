import SchemaNaming.Proofs.Normalizer.FixedNames
import SchemaNaming.Proofs.Pipeline.Occupants

/-!
Names of the members of an enumeration. A standard generator names each member by itself, from its
raw name alone, and does not look at the other members. So the names of two members differ exactly
when normalization keeps their raw names apart.
-/

namespace SchemaNaming
open Text Identifier

/-- The raw names of the members in order: the declared name, else the text of the value. -/
def Schema.rawNames (schema : Schema) : List String :=
  schema.enumeration.zipIdx.map fun (value, i) =>
    Default.enumRaw (schema.enumerationNames[i]?).join value

namespace Default

/-- A raw name of a member with an operator spelled out, or without its double quotes. -/
def spelled (raw : String) : String :=
  match operatorNames.lookup raw with
  | some word => word
  | none => String.ofList (raw.toList.filter (fun c => !(c == '"')))

theorem enumRaw?_eq_some {raw : String} (own : enumRaw? name value = some raw) :
    enumRaw name value = raw := by
  simp only [enumRaw?] at own
  split at own
  · contradiction
  · exact Option.some.inj own

theorem enumName_some {raw : String} (own : enumRaw? name value = some raw) (filled : raw ≠ "") :
    enumName index name value = .ok (spelled raw) := by
  have full : ¬ raw.isEmpty = true := fun empty => filled (String.isEmpty_iff.mp empty)
  simp only [enumName, own, spelled]
  rw [if_neg full]
  cases operatorNames.lookup raw with
  | some word => rfl
  | none => exact congrArg (fun cs => Except.ok (String.ofList cs)) (replace_nothing '"' raw.toList)

theorem enumName_ok (named : enumName index name value = .ok given) :
    given = spelled (enumRaw name value) := by
  cases own : enumRaw? name value with
  | none =>
    simp only [enumName, own] at named
    contradiction
  | some raw =>
    rw [enumRaw?_eq_some own]
    by_cases empty : raw = ""
    · simp only [enumName, own, String.isEmpty_iff.mpr empty, if_true] at named
      contradiction
    · rw [enumName_some own empty] at named
      exact (Except.ok.inj named).symm

theorem operatorNames_other : ∀ entry ∈ operatorNames,
    ∃ c ∈ entry.1.toList, isIdentifierPart c = false := by
  have listed :
      operatorNames.all (fun entry => entry.1.toList.any (!isIdentifierPart ·)) = true := by
    decide +kernel
  intro entry member
  simpa using List.all_eq_true.mp listed entry member

theorem spelled_eq_self {raw : String} (parts : ∀ c ∈ raw.toList, isIdentifierPart c = true) :
    spelled raw = raw := by
  have unlisted : operatorNames.lookup raw = none := by
    refine List.lookup_eq_none_iff.mpr fun entry member => ?_
    obtain ⟨c, inside, other⟩ := operatorNames_other entry member
    rw [bne_iff_ne]
    rintro rfl
    simp [parts c inside] at other
  have unquoted : raw.toList.filter (fun c => !(c == '"')) = raw.toList := by
    have quote : isIdentifierPart '"' = false := by decide +kernel
    refine List.filter_eq_self.mpr fun c member => ?_
    rw [Bool.not_eq_true', beq_eq_false_iff_ne]
    rintro rfl
    simp [parts _ member] at quote
  rw [spelled, unlisted, unquoted]
  exact String.ofList_toList

end Default

namespace Normalizer

/-- The name of a member by its raw name: the segments between separators in camel case, with low
lines for points and with a prefix where there would be no letter in front. -/
def memberName (separator : Char) (digitPrefix raw : String) : String :=
  String.ofList ((leadWithLetter digitPrefix.toList
    (body .enum separator (Default.spelled raw).toList)).map Slot.enum.finish)

theorem IsPlainCamel.memberName_eq {separator : Char} (name : IsPlainCamel raw.toList)
    (outside : Text.isIdentifierPart separator = false) (digitPrefix : String) :
    memberName separator digitPrefix raw = raw := by
  rw [memberName, Default.spelled_eq_self name.isIdentifierPart, name.body_eq outside,
    leadWithLetter_of_led name.isLetterLed, Slot.map_finish_eq_self .enum name.isIdentifierPart,
    String.ofList_toList]

end Normalizer

theorem Generator.ask_standard_enum {separator : Char} {digitPrefix : String} {asked : List Request}
    (lead : Normalizer.IsLead digitPrefix)
    (answered : ((decorated
      { slot := .enum, separator := String.singleton separator, digitPrefix }
      (.base { Default.base .enum with asked })).ask (.enum index name value schema)).1.result =
        .ok v) :
    v = .text (Normalizer.memberName separator digitPrefix (Default.enumRaw name value)) := by
  obtain ⟨_, given, made, base, named, rfl⟩ := ask_decorated_ok answered
  have single : (String.singleton separator).toList = [separator] :=
    String.toList_singleton separator
  have default : Default.enumName index name value = .ok given := by
    change (((Default.enumName index name value).mapError Failure.of).map Value.text) = _ at base
    cases inner : Default.enumName index name value with
    | error fault =>
      rw [inner] at base
      cases base
    | ok text =>
      rw [inner] at base
      cases base
      rfl
  rw [Decorator.normalizer_eq rfl] at named
  obtain ⟨text, _⟩ := Normalizer.normalize_ok named
  rw [Normalizer.form_eq single lead, Default.enumName_ok default] at text
  rw [Normalizer.memberName, ← text, String.ofList_toList]
  rfl

namespace Pipeline
open Plugin

/-- If every request that is answered keeps an invariant, and under it the answer is as it should
be, then so are the answers to a run of requests. -/
theorem generateAll_ok (Inv : Pipeline × Host → Prop) (Answers : Request → Value → Prop)
    (step : ∀ {request s v s'}, Inv s → generate request s = (.ok v, s') →
      Inv s' ∧ Answers request v)
    (start : Inv s) (run : generateAll requests s = (.ok names, s')) :
    List.Forall₂ Answers requests names := by
  induction requests generalizing s names with
  | nil =>
    cases run
    exact .nil
  | cons request rest ih =>
    obtain ⟨v, middle, answered, run⟩ := Run.bind_eq_ok.mp run
    obtain ⟨others, last, rested, run⟩ := Run.bind_eq_ok.mp run
    cases run
    obtain ⟨kept, answers⟩ := step start answered
    exact .cons answers (ih kept rested)

variable {separator : Char} {digitPrefix : String}

/-- A member's name is the one that its raw name has. -/
def NamesAlone (separator : Char) (digitPrefix : String) : Request → Value → Prop
  | .enum _ name value _, v =>
    v = .text (Normalizer.memberName separator digitPrefix (Default.enumRaw name value))
  | _, _ => True

/-- The slot for enumerations has a standard generator with these parameters. -/
def IsStandardEnum (separator : Char) (digitPrefix : String) (s : Pipeline × Host) : Prop :=
  s.2.plugins.IsStandard s.1.occupants.enum
    { slot := .enum, separator := String.singleton separator, digitPrefix }

theorem generate_namesAlone (lead : Normalizer.IsLead digitPrefix)
    (stands : IsStandardEnum separator digitPrefix s)
    (answered : generate request s = (.ok v, s')) :
    IsStandardEnum separator digitPrefix s' ∧ NamesAlone separator digitPrefix request v := by
  constructor
  · have asks : AsksOnly s.2.plugins (generate request s).2.2.plugins :=
      asksOnly_ask (s.1.occupants.get request.slot) request s.2
    have same := generate_pipeline request s
    rw [answered] at asks same
    dsimp only at asks same
    rw [IsStandardEnum, same]
    exact stands.of_asksOnly asks
  · cases request with
    | type | property => trivial
    | enum index name value schema =>
      obtain ⟨asked, found⟩ := stands
      obtain ⟨reply, _⟩ := ask_generator found (.enum index name value schema)
      exact Generator.ask_standard_enum lead (reply.symm.trans (congrArg Prod.fst answered))

theorem generateEnumNames_ok (lead : Normalizer.IsLead digitPrefix)
    (stands : IsStandardEnum separator digitPrefix s)
    (named : generateEnumNames schema s = (.ok names, s')) :
    names = (schema.rawNames.map (Normalizer.memberName separator digitPrefix)).map .text := by
  have each := generateAll_ok _ _ (generate_namesAlone lead) stands named
  have pairs := List.forall₂_map_left_iff.mp each
  rw [Schema.rawNames, List.map_map, List.map_map, eq_comm, ← List.forall₂_eq_eq_eq,
    List.forall₂_map_left_iff]
  exact pairs.imp fun _ _ alone => Eq.symm alone

theorem standard_ok (made : standard h = (.ok p, h')) : IsStandardEnum '-' "N" (p, h') := by
  obtain ⟨occupants, _, filled, created⟩ := Run.bind_eq_ok.mp made
  obtain ⟨same, still⟩ := create_ok created
  rw [IsStandardEnum, same, still]
  exact fill_ok filled .enum

end Pipeline

namespace PipelineCall
open Plugin Pipeline

variable {separator : Char} {digitPrefix : String}

/-- The standard generator gives one name for each member of an enumeration, in order, and each by
the member's raw name alone. So the names are all different exactly if no two members have raw names
that normalization brings together; different raw names that are names already stay different. -/
theorem afterAll_generateEnumNames (outside : isIdentifierPart separator = false)
    (lead : Normalizer.IsLead digitPrefix) {s : Pipeline × Host}
    (stands : IsStandardEnum separator digitPrefix s) (calls : List PipelineCall)
    (stays : (afterAll calls s).1.occupants.enum = s.1.occupants.enum) {schema : Schema}
    {names : List Value} {s' : Pipeline × Host}
    (named : Pipeline.generateEnumNames schema (afterAll calls s) = (.ok names, s')) :
    names = (schema.rawNames.map (Normalizer.memberName separator digitPrefix)).map .text ∧
      (names.Nodup ↔ (schema.rawNames.map (Normalizer.memberName separator digitPrefix)).Nodup) ∧
      ((∀ raw ∈ schema.rawNames, Normalizer.IsPlainCamel raw.toList) →
        names = schema.rawNames.map .text) := by
  have standsToo : IsStandardEnum separator digitPrefix (afterAll calls s) := by
    rw [IsStandardEnum, stays]
    exact stands.of_asksOnly (afterAll_asksOnly calls s)
  obtain rfl := generateEnumNames_ok lead standsToo named
  refine ⟨rfl, ?_, fun plain => ?_⟩
  · exact List.nodup_map_iff fun _ _ => Value.text.inj
  · rw [List.map_map]
    exact List.map_congr_left fun raw member =>
      congrArg Value.text ((plain raw member).memberName_eq outside digitPrefix)

/-- A standard pipeline on a new host. -/
def standardState : Pipeline × Host :=
  match Pipeline.standard {} with
  | (.ok p, h) => (p, h)
  | (.error _, h) => (default, h)

theorem standardState_made : Pipeline.standard {} = (.ok standardState.1, standardState.2) := rfl

/-- A member that is named by its value, an operator, and a declared name, behind other names. -/
theorem afterAll_generateEnumNames_declared :
    let schema : Schema :=
      { enumeration := [.text "light-blue", .text "<=", .int 3]
        enumerationNames := [none, none, some "my.Name"] }
    let calls := [.generateEnumNames { enumeration := [.text "LightBlue"] }, .applyOverrides]
    let s := afterAll calls standardState
    isIdentifierPart '-' = false ∧ Normalizer.IsLead "N" ∧ IsStandardEnum '-' "N" standardState ∧
      s.1.occupants.enum = standardState.1.occupants.enum ∧
      ∃ names s', Pipeline.generateEnumNames schema s = (.ok names, s') ∧
        names = [.text "LightBlue", .text "Le", .text "My_Name"] ∧ names.Nodup := by
  intro schema calls s
  have outside : isIdentifierPart '-' = false := by decide +kernel
  have lead : Normalizer.IsLead "N" := ⟨by decide +kernel, by decide +kernel⟩
  have stands : IsStandardEnum '-' "N" standardState := standard_ok standardState_made
  have stays : s.1.occupants.enum = standardState.1.occupants.enum := by decide +kernel
  have returns : (Pipeline.generateEnumNames schema s).1.toBool = true := by decide +kernel
  refine ⟨outside, lead, stands, stays, ?_⟩
  rcases named : Pipeline.generateEnumNames schema s with ⟨failure | names, s'⟩
  · rw [named] at returns
    contradiction
  obtain ⟨alone, different, _⟩ := afterAll_generateEnumNames outside lead stands calls stays named
  have forms : schema.rawNames.map (Normalizer.memberName '-' "N") =
      ["LightBlue", "Le", "My_Name"] := by decide +kernel
  rw [forms] at alone different
  exact ⟨names, s', rfl, alone, different.mpr (by decide)⟩

/-- Names can coincide where raw names do not: nothing keeps a member's name off the others. -/
theorem generateEnumNames_not_nodup :
    ¬ ∀ (h h₁ : Host) (p : Pipeline) (schema : Schema) (names : List Value)
      (s' : Pipeline × Host), Pipeline.standard h = (.ok p, h₁) → schema.rawNames.Nodup →
      Pipeline.generateEnumNames schema (p, h₁) = (.ok names, s') →
      names.length = schema.enumeration.length ∧ names.Nodup := by
  intro all
  let schema : Schema := { enumeration := [.text "a", .text "A"] }
  have lead : Normalizer.IsLead "N" := ⟨by decide +kernel, by decide +kernel⟩
  have returns : (Pipeline.generateEnumNames schema standardState).1.toBool = true := by
    decide +kernel
  rcases named : Pipeline.generateEnumNames schema standardState with ⟨failure | names, s'⟩
  · rw [named] at returns
    contradiction
  have forms : schema.rawNames.map (Normalizer.memberName '-' "N") = ["A", "A"] := by
    decide +kernel
  obtain ⟨_, different⟩ := all _ _ _ schema names s' standardState_made (by decide +kernel) named
  have alone := generateEnumNames_ok lead (standard_ok standardState_made) named
  rw [alone, forms] at different
  simp at different

end PipelineCall

end SchemaNaming
