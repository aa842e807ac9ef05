import SchemaNaming.Proofs.Normalizer.Names

/-!
Names and the digit prefix, which may be any text. What begins with no letter gets the prefix in front,
a first time when the segments are joined and a second time behind the last replacements. If the
prefix begins with a letter, the second time finds it and does nothing. A prefix that begins with
something else is put in front twice.
-/

namespace SchemaNaming.Normalizer
open Text Identifier

variable {slot : Slot} {separator digitPrefix : String} {lead cs : List Char}

/-- A name without a prefix: the joined segments behind the last replacements. -/
def unprefixed (n : Normalizer) (cs : List Char) : List Char :=
  replaceInTurn n.finals (camelCase n.separator.toList [] (n.substitute cs))

theorem leadWithLetter_nothing (cs : List Char) : leadWithLetter [] cs = cs := by
  simp [leadWithLetter]

theorem isLetterLed_append_eq (some : lead ≠ []) (cs : List Char) :
    isLetterLed (lead ++ cs) = isLetterLed lead := by
  cases lead with
  | nil => contradiction
  | cons c rest => rfl

theorem leadWithLetter_twice_of_led (led : lead = [] ∨ isLetterLed lead = true) (cs : List Char) :
    leadWithLetter lead (leadWithLetter lead cs) = leadWithLetter lead cs := by
  rcases led with rfl | led
  · rw [leadWithLetter_nothing]
  · by_cases some : cs = []
    · rw [some]
      rfl
    · exact leadWithLetter_of_led (isLetterLed_leadWithLetter led some)

theorem leadWithLetter_twice_of_unled (some : lead ≠ []) (unled : isLetterLed lead = false)
    (full : cs ≠ []) (plain : isLetterLed cs = false) :
    leadWithLetter lead (leadWithLetter lead cs) = lead ++ (lead ++ cs) := by
  have still : isLetterLed (lead ++ cs) = false := by rw [isLetterLed_append_eq some, unled]
  have joined : lead ++ cs ≠ [] := List.append_ne_nil_of_right_ne_nil lead full
  rw [leadWithLetter_eq full plain, leadWithLetter_eq joined still]

theorem map_finish_of_undotted (slot : Slot) (undotted : '.' ∉ cs) : cs.map slot.finish = cs := by
  refine (List.map_congr_left fun c member => if_neg fun keeps => ?_).trans (List.map_id cs)
  exact undotted ((Slot.keeps_iff.mp keeps).2 ▸ member)

theorem map_finish_leadWithLetter (slot : Slot) (undotted : '.' ∉ lead) (cs : List Char) :
    (leadWithLetter lead cs).map slot.finish = leadWithLetter lead (cs.map slot.finish) := by
  cases led : isLetterLed cs with
  | true =>
    have still := (isLetterLed_map_finish slot cs).trans led
    rw [leadWithLetter_of_led led, leadWithLetter_of_led still]
  | false =>
    by_cases none : cs = []
    · rw [none]
      rfl
    · have still := (isLetterLed_map_finish slot cs).trans led
      have some : cs.map slot.finish ≠ [] := by simpa using none
      rw [leadWithLetter_eq none led, List.map_append, map_finish_of_undotted slot undotted,
        leadWithLetter_eq some still]

theorem form_eq_unprefixed (undotted : '.' ∉ digitPrefix.toList) (cs : List Char) :
    (forSlot slot separator digitPrefix).form cs =
      leadWithLetter digitPrefix.toList (leadWithLetter digitPrefix.toList
        ((forSlot slot separator digitPrefix).unprefixed cs)) := by
  rw [form, unprefixed, forSlot_digitPrefix, camelCase, camelCase, leadWithLetter_nothing,
    replaceInTurn_finals, replaceInTurn_finals, map_finish_leadWithLetter slot undotted]

theorem normalize_of_form (separates : separator ≠ "") {raw : String} {name : List Char}
    (formed : (forSlot slot separator digitPrefix).form raw.toList = name) (full : name ≠ []) :
    (forSlot slot separator digitPrefix).normalize raw = .ok (String.ofList name) := by
  rw [normalize_forSlot separates, formed, if_neg full]

/-- What normalization makes of a name without a prefix, if the prefix holds no point. It refuses an
empty one and leaves one that begins with a letter. Before any other one it puts the prefix, once if
the prefix is empty or begins with a letter itself, and twice if not. -/
theorem normalize_prefixed (slot : Slot) (separates : separator ≠ "")
    (undotted : '.' ∉ digitPrefix.toList) (raw : String) :
    let n := forSlot slot separator digitPrefix
    let name := n.unprefixed raw.toList
    (name = [] → n.normalize raw =
        .error (.of (.naming (.slot slot) (.text raw) "normalizes to an empty identifier"))) ∧
      (isLetterLed name = true → n.normalize raw = .ok (String.ofList name)) ∧
      (name ≠ [] → isLetterLed name = false →
        (digitPrefix = "" ∨ isLetterLed digitPrefix.toList = true →
          n.normalize raw = .ok (digitPrefix ++ String.ofList name)) ∧
        (digitPrefix ≠ "" → isLetterLed digitPrefix.toList = false →
          n.normalize raw = .ok (digitPrefix ++ (digitPrefix ++ String.ofList name)))) := by
  intro n name
  have formed : n.form raw.toList = leadWithLetter digitPrefix.toList
      (leadWithLetter digitPrefix.toList name) := form_eq_unprefixed undotted raw.toList
  refine ⟨?_, ?_, ?_⟩
  · intro none
    rw [none] at formed
    rw [normalize_forSlot separates]
    exact if_pos formed
  · intro led
    rw [leadWithLetter_of_led led, leadWithLetter_of_led led] at formed
    apply normalize_of_form separates formed
    rintro none
    rw [none] at led
    contradiction
  · intro full plain
    constructor
    · intro led
      have led : digitPrefix.toList = [] ∨ isLetterLed digitPrefix.toList = true :=
        led.imp_left String.toList_eq_nil_iff.mpr
      rw [leadWithLetter_twice_of_led led, leadWithLetter_eq full plain] at formed
      have named := normalize_of_form separates formed
        (List.append_ne_nil_of_right_ne_nil digitPrefix.toList full)
      rwa [String.ofList_append, String.ofList_toList] at named
    · intro some unled
      have some : digitPrefix.toList ≠ [] := mt String.toList_eq_nil_iff.mp some
      rw [leadWithLetter_twice_of_unled some unled full plain] at formed
      have named := normalize_of_form separates formed
        (List.append_ne_nil_of_left_ne_nil some _)
      rwa [String.ofList_append, String.ofList_append, String.ofList_toList] at named

/-- A point in front becomes a low line, which needs the prefix as much as a digit does. -/
theorem normalize_prefixed_point :
    "-" ≠ "" ∧ '.' ∉ "Value".toList ∧
      (forSlot .enum "-" "Value").unprefixed ".net core".toList = "_netCore".toList ∧
      (forSlot .enum "-" "Value").normalize ".net core" = .ok "Value_netCore" := by
  have undotted : '.' ∉ "Value".toList := by decide
  have bare : (forSlot .enum "-" "Value").unprefixed ".net core".toList = "_netCore".toList := by
    decide +kernel
  have separates : "-" ≠ "" := by decide
  obtain ⟨_, _, needed⟩ := normalize_prefixed .enum separates undotted ".net core"
  rw [bare] at needed
  have named := (needed (by decide) (by decide +kernel)).1 (.inr (by decide +kernel))
  exact ⟨separates, undotted, bare, named⟩

/-- With a low line as the prefix, a property whose name begins with a digit gets two of them. -/
theorem normalize_prefixed_twice :
    ¬ ∀ (slot : Slot) (separator : Char) (digitPrefix raw : String),
      isIdentifierPart separator = false → separator ≠ '.' → '.' ∉ digitPrefix.toList →
      let n := forSlot slot (String.singleton separator) digitPrefix
      let name := n.unprefixed raw.toList
      name ≠ [] → n.normalize raw = .ok
        (if isLetterLed name then String.ofList name else digitPrefix ++ String.ofList name) := by
  intro once
  have bare : (forSlot .property "-" "_").unprefixed "1st".toList = "1st".toList := by
    decide +kernel
  have formed : (forSlot .property "-" "_").form "1st".toList = "__1st".toList := by decide +kernel
  have named := normalize_of_form (by decide) formed (by decide)
  have given := once .property '-' "_" "1st" (by decide +kernel) (by decide) (by decide)
  have single : String.singleton '-' = "-" := rfl
  dsimp only at given
  rw [single, bare, named] at given
  have claimed := Except.ok.inj (given (by decide))
  rw [if_neg (by decide +kernel)] at claimed
  exact absurd claimed (by decide)

end SchemaNaming.Normalizer
