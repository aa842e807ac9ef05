import SchemaNaming.Text.Words

/-!
Stripped texts. Trimming gives a text that begins and ends with characters that are kept, and leaves
such a text as it is. A character divides a text at its last occurrence in one way only.
-/

namespace SchemaNaming.Text

variable {cut : Char → Bool} {mark : Char} {cs ds before after : List Char}

/-- Neither the first nor the last character is one to be cut off. -/
structure IsTrimmed (cut : Char → Bool) (cs : List Char) : Prop where
  first : ∀ c, cs.head? = some c → cut c = false
  last : ∀ c, cs.getLast? = some c → cut c = false

theorem cut_head_dropWhile (found : (cs.dropWhile cut).head? = some c) : cut c = false := by
  have kept := List.head?_dropWhile_not cut cs
  rwa [found] at kept

theorem trim_prefix_trimLeft (cut : Char → Bool) (cs : List Char) :
    trim cut cs <+: trimLeft cut cs := by
  have suffix := List.dropWhile_suffix (l := (trimLeft cut cs).reverse) cut
  have reversed := List.reverse_prefix.mpr suffix
  rwa [List.reverse_reverse] at reversed

theorem trim_subset (cut : Char → Bool) (cs : List Char) : trim cut cs ⊆ cs := by
  have front := (trim_prefix_trimLeft cut cs).subset
  exact List.Subset.trans front (List.dropWhile_sublist cut).subset

theorem isTrimmed_trim (cut : Char → Bool) (cs : List Char) : IsTrimmed cut (trim cut cs) where
  first c found := by
    obtain ⟨rest, whole⟩ := trim_prefix_trimLeft cut cs
    have first : (trimLeft cut cs).head? = some c := by
      rw [← whole, List.head?_append, found, Option.some_or]
    exact cut_head_dropWhile first
  last c found := by
    rw [trim, trimRight, List.getLast?_reverse] at found
    exact cut_head_dropWhile found

theorem dropWhile_of_head (first : ∀ c, cs.head? = some c → cut c = false) :
    cs.dropWhile cut = cs := by
  cases cs with
  | nil => rfl
  | cons c rest =>
    have kept := first c rfl
    simp [kept]

theorem IsTrimmed.trim_eq (trimmed : IsTrimmed cut cs) : trim cut cs = cs := by
  have last : ∀ c, cs.reverse.head? = some c → cut c = false := by
    intro c found
    rw [List.head?_reverse] at found
    exact trimmed.last c found
  rw [trim, trimLeft, dropWhile_of_head trimmed.first, trimRight, dropWhile_of_head last,
    List.reverse_reverse]

theorem trim_eq_self_iff : trim cut cs = cs ↔ IsTrimmed cut cs := by
  constructor
  · intro same
    rw [← same]
    exact isTrimmed_trim cut cs
  · exact IsTrimmed.trim_eq

/-- Whatever stands between two trimmed texts, the whole is trimmed. -/
theorem IsTrimmed.append (first : IsTrimmed cut cs) (some : cs ≠ []) (last : IsTrimmed cut ds)
    (more : ds ≠ []) (between : List Char) : IsTrimmed cut (cs ++ between ++ ds) where
  first c found := by
    obtain ⟨head, rest, rfl⟩ := List.exists_cons_of_ne_nil some
    exact first.first c found
  last c found := by
    have final := List.getLast?_eq_some_getLast more
    rw [List.getLast?_append, final, Option.some_or] at found
    exact last.last c (final.trans found)

theorem strip_strip (cs : List Char) : strip (strip cs) = strip cs :=
  (isTrimmed_trim isBlank cs).trim_eq

theorem divideLast?_eq_none_iff : divideLast? mark cs = none ↔ mark ∉ cs := by
  induction cs with
  | nil => simp [divideLast?]
  | cons c rest ih =>
    rw [divideLast?, List.mem_cons, not_or, ← ih]
    constructor
    · intro undivided
      split at undivided
      · contradiction
      · rename_i below
        split at undivided
        · contradiction
        · rename_i different
          exact ⟨fun same => different (by simp [same]), below⟩
    · rintro ⟨different, below⟩
      have other : (c == mark) = false := by simp [Ne.symm different]
      simp [below, other]

/-- Nothing else divides a text at the last occurrence of a character. -/
theorem divideLast?_eq_some_iff :
    divideLast? mark cs = some (before, after) ↔ cs = before ++ mark :: after ∧ mark ∉ after := by
  induction cs generalizing before with
  | nil => simp [divideLast?]
  | cons c rest ih =>
    rw [divideLast?]
    constructor
    · intro divided
      split at divided
      · rename_i front back below
        obtain ⟨rfl, rfl⟩ := Prod.mk.inj (Option.some.inj divided)
        obtain ⟨rfl, plain⟩ := ih.mp below
        exact ⟨rfl, plain⟩
      · rename_i below
        split at divided
        · rename_i same
          obtain rfl : c = mark := by simpa using same
          obtain ⟨rfl, rfl⟩ := Prod.mk.inj (Option.some.inj divided)
          exact ⟨rfl, divideLast?_eq_none_iff.mp below⟩
        · contradiction
    · rintro ⟨same, plain⟩
      cases before with
      | nil =>
        obtain ⟨rfl, rfl⟩ := List.cons.inj same
        rw [divideLast?_eq_none_iff.mpr plain]
        simp
      | cons first before =>
        obtain ⟨rfl, rfl⟩ := List.cons.inj same
        rw [ih.mpr ⟨rfl, plain⟩]

theorem afterLast_eq_self (plain : mark ∉ cs) : afterLast mark cs = cs := by
  rw [afterLast, divideLast?_eq_none_iff.mpr plain]
  rfl

theorem afterLast_append (before : List Char) (plain : mark ∉ after) :
    afterLast mark (before ++ mark :: after) = after := by
  rw [afterLast, divideLast?_eq_some_iff.mpr ⟨rfl, plain⟩]
  rfl

end SchemaNaming.Text
