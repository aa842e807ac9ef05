import SchemaNaming.Proofs.Identifier.FreeNumber

/-!
The search for a free number step by step. It tries the numbers from 2 on one after the other, and
nothing bounds it but the used names: it ends, and with the name that a search among as many numbers
as there are used names finds.
-/

namespace SchemaNaming.Identifier

variable {base : String} {used : List String}

/-- A search that has come to a number ends with the last one. A number is passed over while its name
is used, however long that goes on. -/
inductive CountsTo (base : String) (used : List String) : Nat → Nat → Prop where
  | free {k : Nat} (unused : numbered base k ∉ used) : CountsTo base used k k
  | taken {k last : Nat} (occupied : numbered base k ∈ used)
    (later : CountsTo base used (k + 1) last) : CountsTo base used k last

/-- How a name is made unique: it is kept while it is free, and else the search begins with 2. -/
inductive MadeUnique (base : String) (used : List String) : String → Prop where
  | kept (free : base ∉ used) : MadeUnique base used base
  | counted {k : Nat} (taken : base ∈ used) (search : CountsTo base used 2 k) :
    MadeUnique base used (numbered base k)

namespace CountsTo

theorem of_occupied (start : k ≤ last) (unused : numbered base last ∉ used)
    (occupied : ∀ j, k ≤ j → j < last → numbered base j ∈ used) :
    CountsTo base used k last := by
  obtain ⟨steps, rfl⟩ := Nat.exists_eq_add_of_le start
  induction steps generalizing k with
  | zero => exact .free unused
  | succ steps ih =>
    have next : k + (steps + 1) = k + 1 + steps := by omega
    rw [next] at unused occupied ⊢
    refine .taken (occupied k (by omega) (by omega)) ?_
    exact ih (by omega) unused fun j low high => occupied j (by omega) high

theorem iff_first : CountsTo base used k last ↔
    k ≤ last ∧ numbered base last ∉ used ∧ ∀ j, k ≤ j → j < last → numbered base j ∈ used := by
  constructor
  · intro search
    induction search with
    | free unused => exact ⟨le_rfl, unused, fun j low high => absurd low (by omega)⟩
    | @taken k last occupied _ ih =>
      obtain ⟨start, unused, before⟩ := ih
      refine ⟨by omega, unused, fun j low high => ?_⟩
      rcases Nat.eq_or_lt_of_le low with rfl | low
      · exact occupied
      · exact before j low high
  · rintro ⟨start, unused, occupied⟩
    exact of_occupied start unused occupied

theorem iff_isFirstFree : CountsTo base used 2 k ↔ IsFirstFree base used k :=
  iff_first.trans ⟨fun ⟨low, unused, least⟩ => ⟨low, unused, least⟩,
    fun first => ⟨first.two_le, first.free, first.least⟩⟩

end CountsTo

theorem madeUnique_iff {name : String} :
    MadeUnique base used name ↔ name = uniqueName base used := by
  by_cases taken : base ∈ used
  · obtain ⟨k, first, same⟩ := uniqueName_of_taken taken
    rw [same]
    constructor
    · rintro (free | ⟨_, search⟩)
      · exact absurd taken free
      · rw [(CountsTo.iff_isFirstFree.mp search).unique first]
    · rintro rfl
      exact .counted taken (CountsTo.iff_isFirstFree.mpr first)
  · rw [uniqueName_of_free taken]
    constructor
    · rintro (_ | ⟨member, _⟩)
      · rfl
      · exact absurd member taken
    · rintro rfl
      exact .kept taken

/-- The unbounded search ends for every name and all used names, and with one name only. That name is
not used. It is the name itself while that is free, and else has the first free number from 2 on behind
it, which is at most one more than there are used names. -/
theorem uniqueName_firstFree (base : String) (used : List String) :
    (∀ name, MadeUnique base used name ↔ name = uniqueName base used) ∧
      uniqueName base used ∉ used ∧
      (base ∉ used ∧ uniqueName base used = base ∨
        base ∈ used ∧ ∃ k, IsFirstFree base used k ∧ k ≤ used.toFinset.card + 1 ∧
          uniqueName base used = base ++ toString k) := by
  refine ⟨fun _ => madeUnique_iff, uniqueName_notMem_used base used, ?_⟩
  by_cases taken : base ∈ used
  · obtain ⟨k, first, same⟩ := uniqueName_of_taken taken
    exact .inr ⟨taken, k, first, le_card_of_occupied taken first.least, same⟩
  · exact .inl ⟨taken, uniqueName_of_free taken⟩

example : uniqueName "Pet2" ["Pet22", "Pet2", "Pet24", "Pet2"] = "Pet23" := by decide +kernel

end SchemaNaming.Identifier
