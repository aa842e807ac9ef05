import SchemaNaming.Proofs.Normalizer.Segments

/-!
Cleaned texts. From character to character, cleaning carries along only whether it stands at the head
of a segment. A cut forgets that, so the texts before and behind it are cleaned by themselves. A
character that may stand nowhere leaves it as it was, so such characters may come and go. And what
is left of a text finds at each place what it has found before, so it passes a second time. None of
this depends on the separator, which may be whitespace, a kept character or part of identifiers.
-/

namespace SchemaNaming.Identifier
open Text

/-- Where cleaning puts the separator. -/
def isCut (separator c : Char) : Bool := isBlank c || c == separator

/-- What cleaning leaves of a text that it meets at the head of a segment or inside one, and whether
it stands at a head behind that text. -/
inductive Cleans (separator : Char) (kept : Char → Bool) :
    Bool → List Char → List Char → Bool → Prop where
  | nil : Cleans separator kept atHead [] [] atHead
  | cut : isCut separator c = true → Cleans separator kept true cs ds last →
      Cleans separator kept atHead (c :: cs) (separator :: ds) last
  | shown : isCut separator c = false → mayFollow kept atHead c = true →
      Cleans separator kept false cs ds last →
      Cleans separator kept atHead (c :: cs) (c :: ds) last
  | dropped : isCut separator c = false → mayFollow kept atHead c = false →
      Cleans separator kept atHead cs ds last → Cleans separator kept atHead (c :: cs) ds last

theorem isCut_separator (separator : Char) : isCut separator separator = true := by simp [isCut]

theorem mayFollow_of_not_isShown {kept : Char → Bool} (hidden : isShown kept c = false)
    (atHead : Bool) : mayFollow kept atHead c = false := by
  cases atHead with
  | false => exact hidden
  | true =>
    by_contra head
    have shown := isShown_of_isHead (Bool.eq_true_of_not_eq_false head)
    simp [hidden] at shown

namespace Cleans

variable {separator c : Char} {kept : Char → Bool} {atHead middle last : Bool}
  {cs ds es fs : List Char}

theorem append (front : Cleans separator kept atHead cs ds middle)
    (back : Cleans separator kept middle es fs last) :
    Cleans separator kept atHead (cs ++ es) (ds ++ fs) last := by
  induction front with
  | nil => exact back
  | cut cuts _ ih => exact .cut cuts (ih back)
  | shown uncut follows _ ih => exact .shown uncut follows (ih back)
  | dropped uncut drops _ ih => exact .dropped uncut drops (ih back)

/-- What is left stands where it stood, so nothing more is lost from it. -/
theorem again (cleans : Cleans separator kept atHead cs ds last) :
    Cleans separator kept atHead ds ds last := by
  induction cleans with
  | nil => exact .nil
  | cut _ _ ih => exact .cut (isCut_separator separator) ih
  | shown uncut follows _ ih => exact .shown uncut follows ih
  | dropped _ _ _ ih => exact ih

/-- A character that may stand nowhere. -/
theorem cons_hidden (uncut : isCut separator c = false) (hidden : isShown kept c = false)
    (cleans : Cleans separator kept atHead cs ds last) :
    Cleans separator kept atHead (c :: cs) ds last :=
  .dropped uncut (mayFollow_of_not_isShown hidden atHead) cleans

end Cleans

variable {separator c : Char} {keep : List (List Char)} {atHead last : Bool} {cs ds : List Char}

/-- The characters that cleaning keeps for later. -/
def keeps (keep : List (List Char)) (c : Char) : Bool := keep.contains [c]

theorem cleanFrom_cut (cuts : isCut separator c = true) (atHead : Bool) (cs : List Char) :
    cleanFrom [separator] keep atHead (c :: cs) =
      separator :: cleanFrom [separator] keep true cs := by
  have single : ([c] == [separator]) = (c == separator) := by simp
  have cuts : (isBlank c || c == separator) = true := cuts
  rw [cleanFrom, single, if_pos cuts, List.singleton_append]

theorem cleanFrom_shown (uncut : isCut separator c = false)
    (follows : mayFollow (keeps keep) atHead c = true) (cs : List Char) :
    cleanFrom [separator] keep atHead (c :: cs) = c :: cleanFrom [separator] keep false cs :=
  (cleanFrom_uncut keep atHead (Bool.eq_false_iff.mp uncut) cs).trans (if_pos follows)

theorem cleanFrom_dropped (uncut : isCut separator c = false)
    (drops : mayFollow (keeps keep) atHead c = false) (cs : List Char) :
    cleanFrom [separator] keep atHead (c :: cs) = cleanFrom [separator] keep atHead cs :=
  (cleanFrom_uncut keep atHead (Bool.eq_false_iff.mp uncut) cs).trans
    (if_neg (Bool.eq_false_iff.mp drops))

theorem exists_cleans (separator : Char) (keep : List (List Char)) (atHead : Bool)
    (cs : List Char) : ∃ last,
      Cleans separator (keeps keep) atHead cs (cleanFrom [separator] keep atHead cs) last := by
  induction cs generalizing atHead with
  | nil => exact ⟨atHead, .nil⟩
  | cons c cs ih =>
    cases cuts : isCut separator c with
    | true =>
      obtain ⟨last, cleans⟩ := ih true
      rw [cleanFrom_cut cuts]
      exact ⟨last, .cut cuts cleans⟩
    | false =>
      cases follows : mayFollow (keeps keep) atHead c with
      | true =>
        obtain ⟨last, cleans⟩ := ih false
        rw [cleanFrom_shown cuts follows]
        exact ⟨last, .shown cuts follows cleans⟩
      | false =>
        obtain ⟨last, cleans⟩ := ih atHead
        rw [cleanFrom_dropped cuts follows]
        exact ⟨last, .dropped cuts follows cleans⟩

theorem Cleans.cleanFrom_eq (cleans : Cleans separator (keeps keep) atHead cs ds last) :
    cleanFrom [separator] keep atHead cs = ds := by
  induction cleans with
  | nil => rfl
  | cut cuts _ ih => rw [cleanFrom_cut cuts, ih]
  | shown uncut follows _ ih => rw [cleanFrom_shown uncut follows, ih]
  | dropped uncut drops _ ih => rw [cleanFrom_dropped uncut drops, ih]

theorem clean_clean (separator : Char) (keep : List (List Char)) (cs : List Char) :
    clean [separator] keep (clean [separator] keep cs) = clean [separator] keep cs := by
  obtain ⟨last, cleans⟩ := exists_cleans separator keep true cs
  exact cleans.again.cleanFrom_eq

theorem clean_append_cons (cuts : isCut separator c = true) (keep : List (List Char))
    (front back : List Char) : clean [separator] keep (front ++ c :: back) =
      clean [separator] keep front ++ separator :: clean [separator] keep back := by
  obtain ⟨middle, before⟩ := exists_cleans separator keep true front
  obtain ⟨last, behind⟩ := exists_cleans separator keep true back
  exact (before.append (.cut cuts behind)).cleanFrom_eq

theorem clean_insert (uncut : isCut separator c = false) (hidden : isShown (keeps keep) c = false)
    (front back : List Char) :
    clean [separator] keep (front ++ c :: back) = clean [separator] keep (front ++ back) := by
  obtain ⟨middle, before⟩ := exists_cleans separator keep true front
  obtain ⟨last, behind⟩ := exists_cleans separator keep middle back
  have inserted := before.append (behind.cons_hidden uncut hidden)
  exact inserted.cleanFrom_eq.trans (before.append behind).cleanFrom_eq.symm

/-- Cleaning a text again changes nothing. At whitespace and at the separator a text falls into two
that are cleaned by themselves. So any whitespace may stand in the place of a separator, and a
character that has no meaning at all may stand in any place. -/
theorem clean_stable (separator : Char) (keep : List (List Char)) (front back : List Char) :
    let cleaned := clean [separator] keep
    cleaned (cleaned front) = cleaned front ∧
      (∀ c, isBlank c = true ∨ c = separator →
        cleaned (front ++ c :: back) = cleaned front ++ separator :: cleaned back) ∧
      (∀ c, isBlank c = true →
        cleaned (front ++ c :: back) = cleaned (front ++ separator :: back)) ∧
      ∀ c, isBlank c = false → c ≠ separator → [c] ∉ keep → isIdentifierPart c = false →
        cleaned (front ++ c :: back) = cleaned (front ++ back) := by
  intro cleaned
  have cuts_of {c : Char} (cuts : isBlank c = true ∨ c = separator) : isCut separator c = true := by
    simpa [isCut] using cuts
  have own := isCut_separator separator
  refine ⟨clean_clean separator keep front, ?_, ?_, ?_⟩
  · intro c cuts
    exact clean_append_cons (cuts_of cuts) keep front back
  · intro c blank
    have cut := clean_append_cons (cuts_of (.inl blank)) keep front back
    exact cut.trans (clean_append_cons own keep front back).symm
  · intro c shown different unkept other
    have uncut : isCut separator c = false := by simp [isCut, shown, different]
    have hidden : isShown (keeps keep) c = false := by simp [isShown, keeps, unkept, other]
    exact clean_insert uncut hidden front back

/-- The separator is a letter, a space is kept, and marks that may head no segment stand in front of
both texts. -/
theorem clean_stable_letter :
    let cleaned := clean ['a'] [['.'], [' '], ['x', 'y']]
    let front := "\u0301.\u0301b".toList
    let back := "!\u0301a\u0301".toList
    (isBlank ' ' = true ∧ isBlank '!' = false ∧ isIdentifierPart '!' = false) ∧
      cleaned (front ++ ' ' :: back) = ".\u0301baa".toList ∧
      cleaned (cleaned front) = cleaned front ∧
      cleaned (front ++ ' ' :: back) = cleaned front ++ 'a' :: cleaned back ∧
      cleaned (front ++ '!' :: back) = cleaned (front ++ back) := by
  intro cleaned front back
  have blank : isBlank ' ' = true := by decide +kernel
  have shown : isBlank '!' = false := by decide +kernel
  have other : isIdentifierPart '!' = false := by decide +kernel
  obtain ⟨again, cuts, _, inserts⟩ := clean_stable 'a' [['.'], [' '], ['x', 'y']] front back
  exact ⟨⟨blank, shown, other⟩, by decide +kernel, again, cuts ' ' (.inl blank),
    inserts '!' shown (by decide) (by decide) other⟩

end SchemaNaming.Identifier
