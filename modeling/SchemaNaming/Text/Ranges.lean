/-!
Sets of code points, written as inclusive ranges in ascending order. A search stops at the first
range that begins above the code point, so common characters are decided early.
-/

namespace SchemaNaming.Text

abbrev Ranges := List (Nat × Nat)

namespace Ranges

def has : Ranges → Nat → Bool
  | [], _ => false
  | (lo, hi) :: rest, n => lo ≤ n && (n ≤ hi || has rest n)

def holds (ranges : Ranges) (c : Char) : Bool := ranges.has c.toNat

/-- Each range is nonempty and ends below the next one's start. -/
def Ascending : Ranges → Prop
  | [] => True
  | [(lo, hi)] => lo ≤ hi
  | (lo, hi) :: (lo', hi') :: rest => lo ≤ hi ∧ hi < lo' ∧ Ascending ((lo', hi') :: rest)

instance : ∀ ranges : Ranges, Decidable ranges.Ascending
  | [] => .isTrue trivial
  | [(lo, hi)] => inferInstanceAs (Decidable (lo ≤ hi))
  | (lo, hi) :: (lo', hi') :: rest =>
    have : Decidable (Ascending ((lo', hi') :: rest)) := instDecidableAscending _
    inferInstanceAs (Decidable (lo ≤ hi ∧ hi < lo' ∧ Ascending ((lo', hi') :: rest)))

theorem Ascending.tail {lo hi : Nat} {rest : Ranges} (h : Ascending ((lo, hi) :: rest)) :
    rest.Ascending := by
  cases rest with
  | nil => trivial
  | cons r rest => exact h.2.2

theorem Ascending.lt {lo hi : Nat} {rest : Ranges} (h : Ascending ((lo, hi) :: rest)) :
    ∀ r ∈ rest, hi < r.1 := by
  induction rest generalizing lo hi with
  | nil => simp
  | cons r rest ih =>
    obtain ⟨lo', hi'⟩ := r
    obtain ⟨_, below, tail⟩ := h
    intro s member
    rcases List.mem_cons.mp member with rfl | member
    · exact below
    · have bound : lo' ≤ hi' := by
        cases rest with
        | nil => exact tail
        | cons => exact tail.1
      have := ih tail s member
      omega

/-- On ascending ranges, stopping early loses nothing. -/
theorem has_iff {ranges : Ranges} (ascending : ranges.Ascending) (n : Nat) :
    ranges.has n = true ↔ ∃ r ∈ ranges, r.1 ≤ n ∧ n ≤ r.2 := by
  induction ranges with
  | nil => simp [has]
  | cons r rest ih =>
    obtain ⟨lo, hi⟩ := r
    have later := ascending.lt
    rw [has, Bool.and_eq_true, Bool.or_eq_true, ih ascending.tail]
    simp only [decide_eq_true_eq, List.mem_cons, exists_eq_or_imp]
    constructor
    · rintro ⟨low, high | other⟩
      · exact .inl ⟨low, high⟩
      · exact .inr other
    · rintro (⟨low, high⟩ | ⟨r, member, low, high⟩)
      · exact ⟨low, .inl high⟩
      · have bound : lo ≤ hi := by
          cases rest with
          | nil => simp at member
          | cons => exact ascending.1
        have := later r member
        exact ⟨by omega, .inr ⟨r, member, low, high⟩⟩

end Ranges

end SchemaNaming.Text
