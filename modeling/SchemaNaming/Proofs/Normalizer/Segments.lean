import SchemaNaming.Normalizer
import SchemaNaming.Proofs.Text.CodePoints

/-!
Normalization piece by piece. Between the characters at which a slot cuts stand the pieces of a raw
name; each is tidied by itself. The passes over the whole text that substitution makes amount to
that, because what they put in is a separator and what they keep is none.
-/

namespace SchemaNaming

namespace Text

theorem divideAt_map (cut : Char → Bool) (f : Char → Char) (cs : List Char) :
    divideAt cut (cs.map f) = (divideAt (fun c => cut (f c)) cs).map (·.map f) := by
  induction cs with
  | nil => rfl
  | cons c rest ih =>
    simp only [List.map_cons, divideAt, ih]
    split
    · rfl
    · cases divideAt (fun c => cut (f c)) rest <;> rfl

theorem not_cut_of_mem_divideAt {cut : Char → Bool} {piece cs : List Char}
    (listed : piece ∈ divideAt cut cs) : ∀ c ∈ piece, cut c = false := by
  induction cs generalizing piece with
  | nil =>
    rw [List.mem_singleton.mp listed]
    simp
  | cons c rest ih =>
    rw [divideAt] at listed
    split at listed
    · rcases List.mem_cons.mp listed with rfl | listed
      · simp
      · exact ih listed
    · rename_i uncut
      cases pieces : divideAt cut rest with
      | nil => exact absurd pieces (divideAt_ne_nil cut rest)
      | cons first others =>
        simp only [pieces, consHead, List.mem_cons] at listed ih
        rcases listed with rfl | listed
        · intro x member
          rcases List.mem_cons.mp member with rfl | member
          · exact Bool.eq_false_of_not_eq_true uncut
          · exact ih (.inl rfl) x member
        · exact ih (.inr listed)

theorem divideAt_of_uncut {cut : Char → Bool} {cs : List Char}
    (uncut : ∀ c ∈ cs, cut c = false) : divideAt cut cs = [cs] := by
  induction cs with
  | nil => rfl
  | cons c rest ih =>
    have whole := ih fun x member => uncut x (List.mem_cons_of_mem c member)
    rw [divideAt, if_neg (by simp [uncut c List.mem_cons_self]), whole, consHead]

/-- A character at which a text is cut divides it into two texts, each cut by itself. -/
theorem divideAt_append_cons {cut : Char → Bool} {mark : Char} (cuts : cut mark = true)
    (front back : List Char) :
    divideAt cut (front ++ mark :: back) = divideAt cut front ++ divideAt cut back := by
  induction front with
  | nil => simp only [List.nil_append, divideAt, cuts, if_true, List.singleton_append]
  | cons c front ih =>
    simp only [List.cons_append, divideAt, ih]
    split
    · rfl
    · cases pieces : divideAt cut front with
      | nil => exact absurd pieces (divideAt_ne_nil cut front)
      | cons first others => rfl

theorem divideAt_append_cut {cut : Char → Bool} {cs : List Char} (uncut : ∀ c ∈ cs, cut c = false)
    {mark : Char} (cuts : cut mark = true) (rest : List Char) :
    divideAt cut (cs ++ mark :: rest) = cs :: divideAt cut rest := by
  rw [divideAt_append_cons cuts, divideAt_of_uncut uncut, List.singleton_append]

theorem count_flatten_divideAt {cut : Char → Bool} {x : Char} (uncut : cut x = false)
    (cs : List Char) : (divideAt cut cs).flatten.count x = cs.count x := by
  induction cs with
  | nil => rfl
  | cons c rest ih =>
    rw [divideAt]
    split
    · have different : c ≠ x := by rintro rfl; simp_all
      simp [ih, List.count_cons_of_ne different]
    · cases pieces : divideAt cut rest with
      | nil => exact absurd pieces (divideAt_ne_nil cut rest)
      | cons first others =>
        rw [pieces] at ih
        simp only [consHead, List.flatten_cons, List.cons_append, List.count_cons] at ih ⊢
        rw [ih]

/-- The characters at which a text is not cut stand in its pieces. -/
theorem mem_divideAt_iff {cut : Char → Bool} {c : Char} (cs : List Char) :
    (∃ piece ∈ divideAt cut cs, c ∈ piece) ↔ c ∈ cs ∧ cut c = false := by
  constructor
  · rintro ⟨piece, listed, member⟩
    have uncut := not_cut_of_mem_divideAt listed c member
    have inside : c ∈ (divideAt cut cs).flatten := List.mem_flatten.mpr ⟨piece, listed, member⟩
    rw [← List.count_pos_iff, count_flatten_divideAt uncut, List.count_pos_iff] at inside
    exact ⟨inside, uncut⟩
  · rintro ⟨member, uncut⟩
    rw [← List.count_pos_iff, ← count_flatten_divideAt uncut, List.count_pos_iff] at member
    exact List.mem_flatten.mp member

theorem replace_one (old new : Char) (cs : List Char) :
    replace [old] [new] cs = cs.map (fun c => if c == old then new else c) := by
  rw [replace_singleton, List.map_eq_flatMap]
  congr 1
  funext c
  split <;> rfl

theorem replace_nothing (old : Char) (cs : List Char) :
    replace [old] [] cs = cs.filter (fun c => !(c == old)) := by
  rw [replace_singleton]
  induction cs with
  | nil => rfl
  | cons c rest ih =>
    rw [List.flatMap_cons, ih, List.filter_cons]
    by_cases same : c = old <;> simp [same]

end Text

namespace Identifier
open Text

/-- What may head a segment. -/
def isHead (kept : Char → Bool) (c : Char) : Bool := kept c || isSegmentStart c

/-- What may stand inside a segment. -/
def isShown (kept : Char → Bool) (c : Char) : Bool := kept c || isIdentifierPart c

/-- What may stand next, at the head of a segment or inside it. -/
def mayFollow (kept : Char → Bool) : Bool → Char → Bool
  | true => isHead kept
  | false => isShown kept

theorem isShown_of_isHead {kept : Char → Bool} (head : isHead kept c = true) :
    isShown kept c = true := by
  simp only [isHead, isShown, Bool.or_eq_true] at head ⊢
  exact head.imp_right isIdentifierPart_of_isSegmentStart

/-- What remains of a piece: it begins with a character that may head a segment, and everything
that may not stand inside one is dropped. -/
def tidy (kept : Char → Bool) (piece : List Char) : List Char :=
  (piece.dropWhile (fun c => !isHead kept c)).filter (isShown kept)

theorem tidy_cons_head {kept : Char → Bool} (head : isHead kept c = true) (piece : List Char) :
    tidy kept (c :: piece) = c :: piece.filter (isShown kept) := by
  rw [tidy, List.dropWhile_cons, if_neg (by simp [head]),
    List.filter_cons_of_pos (isShown_of_isHead head)]

theorem tidy_cons_other {kept : Char → Bool} (other : isHead kept c = false)
    (piece : List Char) : tidy kept (c :: piece) = tidy kept piece := by
  rw [tidy, List.dropWhile_cons, if_pos (by simp [other]), tidy]

/-- The pieces that remain when the first one may have begun before. -/
def tidyFrom (kept : Char → Bool) : Bool → List (List Char) → List (List Char)
  | _, [] => []
  | true, piece :: rest => tidy kept piece :: rest.map (tidy kept)
  | false, piece :: rest => piece.filter (isShown kept) :: rest.map (tidy kept)

theorem tidyFrom_true (kept : Char → Bool) (pieces : List (List Char)) :
    tidyFrom kept true pieces = pieces.map (tidy kept) := by cases pieces <;> rfl

theorem tidyFrom_consHead (kept : Char → Bool) (atHead : Bool) (c : Char) (piece : List Char)
    (others : List (List Char)) :
    tidyFrom kept atHead (consHead c (piece :: others)) =
      if mayFollow kept atHead c = true then consHead c (tidyFrom kept false (piece :: others))
      else tidyFrom kept atHead (piece :: others) := by
  cases atHead with
  | true =>
    cases head : isHead kept c with
    | true => simp only [mayFollow, head, consHead, tidyFrom, tidy_cons_head head, if_true]
    | false => simp [mayFollow, head, consHead, tidyFrom, tidy_cons_other head]
  | false =>
    cases shown : isShown kept c with
    | true => simp [mayFollow, consHead, tidyFrom, shown]
    | false => simp [mayFollow, consHead, tidyFrom, shown]

theorem cleanFrom_uncut {separator : Char} (keep : List (List Char)) (atHead : Bool)
    (uncut : ¬ (isBlank c || c == separator) = true) (rest : List Char) :
    cleanFrom [separator] keep atHead (c :: rest) =
      if mayFollow (fun c => keep.contains [c]) atHead c = true then
        c :: cleanFrom [separator] keep false rest
      else cleanFrom [separator] keep atHead rest := by
  have single : ([c] == [separator]) = (c == separator) := by simp
  rw [cleanFrom, single, if_neg uncut]
  cases kept : keep.contains [c] with
  | true => cases atHead <;> simp only [mayFollow, isHead, isShown, kept, Bool.true_or, if_true]
  | false =>
    cases atHead with
    | true =>
      cases start : isSegmentStart c with
      | true =>
        simp [mayFollow, isHead, start, isIdentifierPart_of_isSegmentStart start]
      | false =>
        simp only [mayFollow, isHead, kept, start, Bool.false_or, Bool.not_true, Bool.and_false,
          Bool.false_eq_true, if_false]
    | false =>
      simp only [mayFollow, isShown, kept, Bool.false_or, Bool.not_false, Bool.true_or,
        Bool.and_true, Bool.false_eq_true, if_false]

theorem divideAt_cleanFrom (separator : Char) (keep : List (List Char)) (atHead : Bool)
    (cs : List Char) :
    divideAt (· == separator) (cleanFrom [separator] keep atHead cs) =
      tidyFrom (fun c => keep.contains [c]) atHead
        (divideAt (fun c => isBlank c || c == separator) cs) := by
  induction cs generalizing atHead with
  | nil => cases atHead <;> rfl
  | cons c rest ih =>
    rw [divideAt]
    split
    · rename_i cut
      have single : ([c] == [separator]) = (c == separator) := by simp
      rw [cleanFrom, single, if_pos cut, List.singleton_append, divideAt,
        if_pos (beq_self_eq_true _), ih, tidyFrom_true]
      cases atHead <;> rfl
    · rename_i uncut
      have different : ¬ (c == separator) = true := fun same => uncut (by simp [same])
      rw [cleanFrom_uncut keep atHead uncut]
      cases pieces : divideAt (fun c => isBlank c || c == separator) rest with
      | nil => exact absurd pieces (divideAt_ne_nil _ rest)
      | cons piece others =>
        rw [tidyFrom_consHead, ← pieces, ← ih, ← ih]
        split
        · rw [divideAt, if_neg different]
        · rfl

theorem divideAt_clean (separator : Char) (keep : List (List Char)) (cs : List Char) :
    divideAt (· == separator) (clean [separator] keep cs) =
      (divideAt (fun c => isBlank c || c == separator) cs).map
        (tidy (fun c => keep.contains [c])) := by
  rw [clean, divideAt_cleanFrom, tidyFrom_true]

end Identifier

namespace Slot
open Text

/-- What a slot turns into the separator. -/
def separated : Slot → List Char
  | .enum => [':', '_']
  | .type => ['_']
  | .property => ['_', '.']

def deleted : Slot → List Char
  | .property => ['@']
  | .enum | .type => []

/-- What a slot replaces after casing. -/
def kept : Slot → List Char
  | .enum => ['.']
  | .type | .property => []

def keeps (slot : Slot) (c : Char) : Bool := slot.kept.contains c

/-- Where a slot cuts a raw name into pieces. -/
def cuts (slot : Slot) (separator c : Char) : Bool :=
  slot.separated.contains c || isBlank c || c == separator

theorem cuts_lowLine (slot : Slot) (separator : Char) : slot.cuts separator '_' = true := by
  cases slot <;> simp [cuts, separated]

end Slot

namespace Normalizer
open Text Identifier

variable {slot : Slot} {separator : String} {s : Char}

/-- The tidied pieces of a raw name. -/
def segments (slot : Slot) (s : Char) (raw : List Char) : List (List Char) :=
  (divideAt (slot.cuts s) (raw.filter (fun c => !slot.deleted.contains c))).map (tidy slot.keeps)

theorem keep_forSlot (slot : Slot) (separator digitPrefix : String) :
    (forSlot slot separator digitPrefix).keep = slot.kept.map ([·]) := by
  cases slot <;> rfl

theorem replaceEach_deleted (slot : Slot) (separator digitPrefix : String) (raw : List Char) :
    replaceEach (forSlot slot separator digitPrefix).deleted "" raw =
      raw.filter (fun c => !slot.deleted.contains c) := by
  cases slot with
  | enum | type => exact (List.filter_eq_self.mpr fun _ _ => rfl).symm
  | property =>
    simp only [replaceEach, forSlot, List.foldl_cons, List.foldl_nil]
    rw [show "@".toList = ['@'] from rfl, show "".toList = [] from rfl, replace_nothing]
    refine List.filter_congr fun c _ => ?_
    simp [Slot.deleted, beq_eq_decide]

theorem replaceEach_separated (single : separator.toList = [s]) (digitPrefix : String)
    (raw : List Char) :
    replaceEach (forSlot slot separator digitPrefix).separated separator raw =
      raw.map (fun c => if slot.separated.contains c then s else c) := by
  have step (old : Char) (cs : List Char) :
      replace [old] separator.toList cs = cs.map (fun c => if c == old then s else c) := by
    rw [single, replace_one]
  cases slot with
  | enum =>
    simp only [replaceEach, forSlot, List.foldl_cons, List.foldl_nil]
    rw [show ":".toList = [':'] from rfl, show "_".toList = ['_'] from rfl, step, step,
      List.map_map]
    refine List.map_congr_left fun c _ => ?_
    by_cases colon : c = ':' <;> by_cases low : c = '_' <;> simp [Slot.separated, colon, low]
  | type =>
    simp only [replaceEach, forSlot, List.foldl_cons, List.foldl_nil]
    rw [show "_".toList = ['_'] from rfl, step]
    simp [Slot.separated]
  | property =>
    simp only [replaceEach, forSlot, List.foldl_cons, List.foldl_nil]
    rw [show "_".toList = ['_'] from rfl, show ".".toList = ['.'] from rfl, step, step,
      List.map_map]
    refine List.map_congr_left fun c _ => ?_
    by_cases low : c = '_' <;> by_cases dot : c = '.' <;> simp [Slot.separated, low, dot]

theorem divideAt_separated (slot : Slot) (s : Char) (raw : List Char) :
    divideAt (fun c => isBlank c || c == s)
        (raw.map (fun c => if slot.separated.contains c then s else c)) =
      divideAt (slot.cuts s) raw := by
  have same : (fun c => isBlank (if slot.separated.contains c then s else c) ||
      (if slot.separated.contains c then s else c) == s) = slot.cuts s := by
    funext c
    cases listed : slot.separated.contains c with
    | true => simp only [Slot.cuts, listed, if_true, beq_self_eq_true, Bool.or_true, Bool.true_or]
    | false => simp only [Slot.cuts, listed, Bool.false_eq_true, if_false, Bool.false_or]
  rw [divideAt_map, same]
  refine (List.map_congr_left fun piece listed => ?_).trans (List.map_id _)
  refine (List.map_congr_left fun c member => ?_).trans (List.map_id _)
  have uncut := not_cut_of_mem_divideAt listed c member
  simp only [Slot.cuts, Bool.or_eq_false_iff] at uncut
  simp only [uncut.1.1, Bool.false_eq_true, if_false, id_eq]

theorem divide_substitute (single : separator.toList = [s]) (digitPrefix : String)
    (raw : List Char) :
    divide [s] ((forSlot slot separator digitPrefix).substitute raw) = segments slot s raw := by
  have kept : (fun c => (slot.kept.map ([·])).contains [c]) = slot.keeps := by
    funext c
    cases slot <;> simp [Slot.kept, Slot.keeps]
  have own : (forSlot slot separator digitPrefix).separator = separator := by cases slot <;> rfl
  rw [substitute, own, single, keep_forSlot, replaceEach_deleted, replaceEach_separated single,
    divide_singleton, divideAt_clean, divideAt_separated, kept, segments]

/-- The joined segments of a raw name, each with its head in upper case. -/
def body (slot : Slot) (s : Char) (raw : List Char) : List Char :=
  (segments slot s raw).flatMap capitalize

theorem camelBody_substitute (single : separator.toList = [s]) (digitPrefix : String)
    (raw : List Char) :
    camelBody [s] ((forSlot slot separator digitPrefix).substitute raw) = body slot s raw := by
  rw [camelBody, divide_substitute single, body]

end Normalizer

end SchemaNaming
