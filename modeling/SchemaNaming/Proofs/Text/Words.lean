import SchemaNaming.Text.Words
import SchemaNaming.Proofs.Normalizer.Segments

/-!
Words of texts. Whitespace belongs to no word, and at each whitespace character a text falls into two
texts whose words are independent of each other.
-/

namespace SchemaNaming.Text

variable {c : Char} {cs : List Char}

theorem words_append_cons (blank : isBlank c = true) (front back : List Char) :
    words (front ++ c :: back) = words front ++ words back := by
  rw [words, divideAt_append_cons blank, List.filter_append]
  rfl

theorem words_of_shown (some : cs ≠ []) (shown : ∀ c ∈ cs, isBlank c = false) :
    words cs = [cs] := by
  rw [words, divideAt_of_uncut shown]
  simp [some]

theorem isBlank_of_words_eq_nil (none : words cs = []) : ∀ c ∈ cs, isBlank c = true := by
  intro c member
  by_contra shown
  obtain ⟨piece, listed, inside⟩ :=
    (mem_divideAt_iff cs).mpr ⟨member, Bool.eq_false_of_not_eq_true shown⟩
  have empty := List.filter_eq_nil_iff.mp none piece listed
  obtain rfl : piece = [] := by simpa using empty
  contradiction

end SchemaNaming.Text
