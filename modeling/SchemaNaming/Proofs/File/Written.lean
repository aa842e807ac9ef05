import SchemaNaming.File.Tree

/-!
Files that are written and read again. A walk that leads to a place leads there again when a file
has been put there, because the walk has met no link at that place. What is put into other files
changes no walk.
-/

namespace SchemaNaming

/-- The place that a walk has come to, or where something new would stand. -/
def Found.location : Found → Location
  | .node place => place
  | .vacant parent name => parent ++ [name]

namespace FileTree

variable {t t' : FileTree} {place other : Location}

theorem lookup_filter (different : other ≠ place) (nodes : List (Location × Node)) :
    (nodes.filter (fun entry => entry.1 != place)).lookup other = nodes.lookup other := by
  induction nodes with
  | nil => rfl
  | cons entry rest ih =>
    by_cases own : entry.1 = place
    · have unlike : (other == entry.1) = false := by simp [own, different]
      rw [List.filter_cons_of_neg (by simp [own]), List.lookup_cons, unlike, ih]
    · rw [List.filter_cons_of_pos (by simp [own]), List.lookup_cons, List.lookup_cons, ih]

theorem node?_put_ne (different : other ≠ place) (t : FileTree) (node : Node) :
    (t.put place node).node? other = t.node? other := by
  rw [put]
  split
  · rfl
  · cases other with
    | nil => rfl
    | cons name rest =>
      have unlike : (name :: rest == place) = false := by simp [different]
      change (t.nodes.filter _ ++ [(place, node)]).lookup (name :: rest) = t.nodes.lookup _
      rw [List.lookup_append, lookup_filter different, List.lookup_cons, unlike, List.lookup_nil,
        Option.or_none]

theorem node?_put_self (below : place ≠ []) (t : FileTree) (node : Node) :
    (t.put place node).node? place = some node := by
  have absent : (t.nodes.filter (fun entry => entry.1 != place)).lookup place = none := by
    rw [List.lookup_eq_none_iff]
    intro entry listed
    have other : entry.1 ≠ place := by simpa using (List.mem_filter.mp listed).2
    simp [Ne.symm other]
  rw [put, if_neg (by simp [below])]
  cases place with
  | nil => contradiction
  | cons name rest =>
    change (t.nodes.filter _ ++ [(name :: rest, node)]).lookup (name :: rest) = some node
    rw [List.lookup_append, absent, Option.none_or, List.lookup_cons, beq_self_eq_true]

theorem isDirectoryAt_iff : t.isDirectoryAt place = true ↔ t.node? place = some .directory := by
  rw [isDirectoryAt]
  split <;> simp_all

theorem ne_nil_of_not_directory (other : t.isDirectoryAt place = false) : place ≠ [] := by
  rintro rfl
  contradiction

/-- A name that leads from a directory to what stands in it. -/
structure IsName (name : String) : Prop where
  filled : (name == "" || name == ".") = false
  forward : (name == "..") = false
  short : ¬ nameLimit < name.utf8ByteSize

/-- A walk that comes to an end, and how many links it may follow. -/
inductive Walks (t : FileTree) : Nat → Location → List String → Found → Prop where
  | here : Walks t links start [] (.node start)
  | stay (inside : t.isDirectoryAt start = true) (empty : (name == "" || name == ".") = true)
    (goes : Walks t links start rest arrival) : Walks t links start (name :: rest) arrival
  | up (inside : t.isDirectoryAt start = true) (goes : Walks t links start.dropLast rest arrival) :
    Walks t links start (".." :: rest) arrival
  | vacant (inside : t.isDirectoryAt start = true) (named : IsName name)
    (free : t.node? (start ++ [name]) = none) : Walks t links start [name] (.vacant start name)
  | follow {path : String} (inside : t.isDirectoryAt start = true) (named : IsName name)
    (link : t.node? (start ++ [name]) = some (.link path))
    (goes : Walks t links (startOf start path) (Path.names path ++ rest) arrival) :
    Walks t (links + 1) start (name :: rest) arrival
  | down (inside : t.isDirectoryAt start = true) (named : IsName name)
    (stands : t.node? (start ++ [name]) = some node) (unlinked : ∀ path, node ≠ .link path)
    (goes : Walks t links (start ++ [name]) rest arrival) :
    Walks t links start (name :: rest) arrival

variable {arrival : Found}

/-- The walk along names, given what walks behind links come to. -/
theorem walkAlong_eq_ok_iff {follow : Location → List String → Except FileReason Found}
    (follows : ∀ start names, follow start names = .ok arrival ↔
      ∃ fewer, links = fewer + 1 ∧ Walks t fewer start names arrival)
    (start : Location) (names : List String) :
    t.walkAlong follow start names = .ok arrival ↔ Walks t links start names arrival := by
  induction names generalizing start with
  | nil =>
    rw [walkAlong]
    constructor
    · intro ended
      obtain rfl := Except.ok.inj ended
      exact .here
    · intro walks
      cases walks
      rfl
  | cons name rest ih =>
    rw [walkAlong]
    constructor
    · intro ended
      split at ended
      · contradiction
      · rename_i inside
        have inside : t.isDirectoryAt start = true := by simpa using inside
        split at ended
        · rename_i empty
          exact .stay inside empty ((ih start).mp ended)
        · rename_i filled
          split at ended
          · rename_i back
            obtain rfl : name = ".." := by simpa using back
            exact .up inside ((ih start.dropLast).mp ended)
          · rename_i forward
            split at ended
            · contradiction
            · rename_i short
              have named : IsName name :=
                ⟨eq_false_of_ne_true filled, eq_false_of_ne_true forward, short⟩
              split at ended
              · rename_i free
                split at ended
                · rename_i last
                  obtain rfl := List.isEmpty_iff.mp last
                  obtain rfl := Except.ok.inj ended
                  exact .vacant inside named free
                · contradiction
              · rename_i path link
                obtain ⟨fewer, rfl, goes⟩ := (follows _ _).mp ended
                exact .follow inside named link goes
              · rename_i node unlinked stands
                exact .down inside named stands unlinked ((ih _).mp ended)
    · intro walks
      cases walks with
      | stay inside empty goes => simp [inside, empty, (ih start).mpr goes]
      | up inside goes => simp [inside, (ih start.dropLast).mpr goes]
      | vacant inside named free => simp [inside, named.filled, named.forward, named.short, free]
      | follow inside named link goes =>
        have followed := (follows _ _).mpr ⟨_, rfl, goes⟩
        simp [inside, named.filled, named.forward, named.short, link, followed]
      | down inside named stands unlinked goes =>
        rename_i node
        have further := (ih _).mpr goes
        cases node with
        | link path => exact absurd rfl (unlinked path)
        | directory | file content =>
          simp [inside, named.filled, named.forward, named.short, stands, further]

theorem walk_eq_ok_iff (t : FileTree) (links : Nat) (start : Location) (names : List String) :
    t.walk links start names = .ok arrival ↔ Walks t links start names arrival := by
  induction links generalizing start names arrival with
  | zero =>
    rw [walk]
    refine walkAlong_eq_ok_iff (fun start names => ?_) start names
    simp
  | succ links ih =>
    rw [walk]
    refine walkAlong_eq_ok_iff (fun start names => ?_) start names
    rw [ih]
    simp

theorem Walks.free (walks : Walks t links start names (.vacant parent name)) :
    t.node? (parent ++ [name]) = none := by
  generalize ended : Found.vacant parent name = arrival at walks
  induction walks with
  | here => contradiction
  | vacant _ _ free =>
    obtain ⟨rfl, rfl⟩ := Found.vacant.inj ended
    exact free
  | stay _ _ _ ih | up _ _ ih | follow _ _ _ _ ih | down _ _ _ _ _ ih => exact ih ended

theorem prefix_of_startOf {path : String} (below : place ≠ [])
    (inside : place <+: startOf start path) : place <+: start := by
  rw [startOf] at inside
  split at inside
  · exact absurd (List.prefix_nil.mp inside) below
  · exact inside

/-- A file at the place that a walk has come to changes nothing of what the walk meets. It has not
met a link there, as walks from outside do not end at a link. -/
theorem Walks.put (walks : Walks t links start names arrival) (ends : arrival.location = place)
    (other : t.isDirectoryAt place = false) (content : Content) :
    (∀ path, t.node? place = some (.link path) → place <+: start) ∧
      Walks (t.put place (.file content)) links start names (.node place) := by
  have below := ne_nil_of_not_directory other
  have written := node?_put_self below t (.file content)
  have stays {inner : Location} (inside : t.isDirectoryAt inner = true) :
      (t.put place (.file content)).isDirectoryAt inner = true := by
    have different : inner ≠ place := by
      rintro rfl
      simp [other] at inside
    rwa [isDirectoryAt, node?_put_ne different, ← isDirectoryAt]
  induction walks with
  | here =>
    obtain rfl := ends
    exact ⟨fun _ _ => List.prefix_rfl, .here⟩
  | stay inside empty _ ih =>
    obtain ⟨linked, walks⟩ := ih ends
    exact ⟨linked, .stay (stays inside) empty walks⟩
  | up inside _ ih =>
    obtain ⟨linked, walks⟩ := ih ends
    refine ⟨fun path link => ?_, .up (stays inside) walks⟩
    exact (linked path link).trans (List.dropLast_prefix _)
  | vacant inside named free =>
    obtain rfl := ends
    refine ⟨fun path link => ?_, .down (stays inside) named written (by simp) .here⟩
    rw [Found.location, free] at link
    contradiction
  | @follow start name _ _ _ path inside named link _ ih =>
    obtain ⟨linked, walks⟩ := ih ends
    have outside (path : String) (link : t.node? place = some (.link path)) : place <+: start :=
      prefix_of_startOf below (linked path link)
    have different : start ++ [name] ≠ place := by
      rintro rfl
      have longer := (outside path link).length_le
      rw [List.length_append, List.length_singleton] at longer
      omega
    rw [← node?_put_ne different t (.file content)] at link
    exact ⟨outside, .follow (stays inside) named link walks⟩
  | @down start name node _ _ _ inside named stands unlinked _ ih =>
    obtain ⟨linked, walks⟩ := ih ends
    by_cases same : start ++ [name] = place
    · refine ⟨fun path link => ?_, .down (stays inside) named (by rwa [same]) (by simp) walks⟩
      rw [← same, stands] at link
      exact absurd (Option.some.inj link) (unlinked path)
    · refine ⟨fun path link => ?_, ?_⟩
      · exact (List.prefix_concat_iff.mp (linked path link)).resolve_left (Ne.symm same)
      · rw [← node?_put_ne same t (.file content)] at stands
        exact .down (stays inside) named stands unlinked walks

theorem find_eq_ok_iff : t.find base path = .ok arrival ↔
    path.isEmpty = false ∧ ¬ pathLimit < path.utf8ByteSize ∧
      Walks t linkLimit (startOf base path) (Path.names path) arrival := by
  rw [find, ← walk_eq_ok_iff]
  split
  · simp_all
  · split
    · simp_all
    · simp_all

/-- Where writing leads is no directory. -/
theorem target_eq_ok (aimed : t.target base path = .ok place) :
    ∃ arrival, t.find base path = .ok arrival ∧ arrival.location = place ∧
      t.isDirectoryAt place = false := by
  rw [target] at aimed
  split at aimed
  · rename_i arrival found
    split at aimed
    · contradiction
    · rename_i other
      obtain rfl := Except.ok.inj aimed
      exact ⟨.node arrival, found, rfl, eq_false_of_ne_true other⟩
  · rename_i parent name found
    obtain rfl := Except.ok.inj aimed
    refine ⟨.vacant parent name, found, rfl, ?_⟩
    rw [isDirectoryAt, (find_eq_ok_iff.mp found).2.2.free]
  · contradiction

/-- The file that has been written is found where it has been written. -/
theorem locate_put (aimed : t.target base path = .ok place) (content : Content) :
    (t.put place (.file content)).locate base path = .ok place := by
  obtain ⟨arrival, found, ends, other⟩ := target_eq_ok aimed
  obtain ⟨some, short, walks⟩ := find_eq_ok_iff.mp found
  have again := find_eq_ok_iff.mpr ⟨some, short, (walks.put ends other content).2⟩
  rw [locate, again]

/-- What stands somewhere stands there still, though files may hold something else. -/
def Retains (t t' : FileTree) : Prop :=
  ∀ place node, t.node? place = some node → t'.node? place = some node ∨
    ∃ content content', node = .file content ∧ t'.node? place = some (.file content')

namespace Retains

theorem refl (t : FileTree) : Retains t t := fun _ _ stands => .inl stands

theorem trans (first : Retains t t') (second : Retains t' t'') : Retains t t'' := by
  intro place node stands
  rcases first place node stands with still | ⟨content, content', rfl, changed⟩
  · exact second place node still
  · rcases second place _ changed with still | ⟨_, content'', _, again⟩
    · exact .inr ⟨content, content', rfl, still⟩
    · exact .inr ⟨content, content'', rfl, again⟩

theorem isDirectoryAt (retained : Retains t t') (inside : t.isDirectoryAt place = true) :
    t'.isDirectoryAt place = true := by
  rcases retained place _ (isDirectoryAt_iff.mp inside) with still | ⟨_, _, other, _⟩
  · exact isDirectoryAt_iff.mpr still
  · contradiction

/-- A walk to something only meets what stands there still. -/
theorem walks (retained : Retains t t') (walks : Walks t links start names arrival)
    (ends : arrival = .node place) : Walks t' links start names arrival := by
  induction walks with
  | here => exact .here
  | stay inside empty _ ih => exact .stay (retained.isDirectoryAt inside) empty (ih ends)
  | up inside _ ih => exact .up (retained.isDirectoryAt inside) (ih ends)
  | vacant inside named free => contradiction
  | follow inside named link _ ih =>
    rcases retained _ _ link with still | ⟨_, _, other, _⟩
    · exact .follow (retained.isDirectoryAt inside) named still (ih ends)
    · contradiction
  | down inside named stands unlinked _ ih =>
    rcases retained _ _ stands with still | ⟨_, _, _, changed⟩
    · exact .down (retained.isDirectoryAt inside) named still unlinked (ih ends)
    · exact .down (retained.isDirectoryAt inside) named changed (by simp) (ih ends)

theorem locate (retained : Retains t t') (located : t.locate base path = .ok place) :
    t'.locate base path = .ok place := by
  rw [FileTree.locate] at located
  split at located
  · rename_i found
    obtain rfl := Except.ok.inj located
    obtain ⟨some, short, goes⟩ := find_eq_ok_iff.mp found
    have goes := retained.walks goes rfl
    rw [FileTree.locate, find_eq_ok_iff.mpr ⟨some, short, goes⟩]
  · contradiction
  · contradiction

end Retains

/-- A place where a file stands or could stand. -/
def IsFree (t : FileTree) (place : Location) : Prop :=
  ∀ node, t.node? place = some node → ∃ content, node = .file content

instance (t : FileTree) (place : Location) : Decidable (t.IsFree place) :=
  match stands : t.node? place with
  | none => isTrue fun node found => by simp [stands] at found
  | some (.file content) => isTrue fun node found => ⟨content, by simpa [stands] using found.symm⟩
  | some .directory => isFalse fun free => by simpa using free .directory stands
  | some (.link path) => isFalse fun free => by simpa using free (.link path) stands

theorem IsFree.ne_nil (free : IsFree t place) : place ≠ [] := by
  rintro rfl
  obtain ⟨_, file⟩ := free .directory rfl
  contradiction

theorem isFree_put_file (free : IsFree t place) (other : Location) (content : Content) :
    IsFree (t.put other (.file content)) place := by
  intro node stands
  by_cases own : place = other
  · rw [← own, node?_put_self free.ne_nil] at stands
    exact ⟨content, (Option.some.inj stands).symm⟩
  · rw [node?_put_ne own] at stands
    exact free node stands

/-- More text at the end of a file, or a new file. -/
theorem appendAt_cases (t : FileTree) (place : Location) (more : String) :
    t.appendAt place more = t ∨ ∃ content, t.appendAt place more = t.put place (.file content) := by
  rw [appendAt]
  split
  · exact .inr ⟨_, rfl⟩
  · exact .inl rfl

theorem retains_put_file (free : IsFree t place) (content : Content) :
    Retains t (t.put place (.file content)) := by
  intro other node stands
  by_cases own : other = place
  · subst own
    obtain ⟨before, rfl⟩ := free node stands
    exact .inr ⟨before, content, rfl, node?_put_self free.ne_nil t _⟩
  · exact .inl ((node?_put_ne own t _).trans stands)

end FileTree

end SchemaNaming
