/-
The components of a path (`Path.components`), by which a name is told to be
a bare one. They are what stands between the slashes, where a slash too many
and a `.` that does not lead count for nothing. A name is bare if it has one
component, and that is an ordinary name (`bareName?_eq_some_iff`).

# What is written

So a name need not be written as it is called: behind it there may be
slashes, each with or without a `.`, as in `tool/` and `tool//./`. There is
no other way to write it (`Path.Spells`, `components_eq_singleton_iff`).
-/
import LineShell.Proofs.Location

namespace LineShell.Path

/-- A component of a path. -/
inductive Component
  | root
  | here
  | up
  | ordinary (name : Bytes)
  deriving DecidableEq, Repr

/-- The component that is written like this. -/
def Component.ofName (name : Bytes) : Component :=
  if name = Path.here then .here else if name = Path.up then .up else .ordinary name

/-- The components of a path. Its first one tells whether it begins at the
root, in `.`, or with a name; of what is behind a slash, nothing and `.` are
no components. -/
def components (p : Path) : List Component :=
  match p.splitOn slash with
  | [] => []
  | first :: others =>
    (if first ≠ [] then [.ofName first] else if others = [] then [] else [.root])
      ++ (others.filter fun name => name ≠ [] ∧ name ≠ here).map .ofName

/-- A path is written for an ordinary name: behind that come slashes, and
behind each of them a `.` at most. -/
def Spells (p : Path) (bare : Bytes) : Prop :=
  IsPlain bare ∧ ∃ dots : List Bytes, (∀ dot ∈ dots, dot = [] ∨ dot = here) ∧
    p = bare ++ dots.flatMap (slash :: ·)

variable {p : Path} {bare : Bytes}

-- ================================================== between the slashes

/-- A path is put together again from what stands between its slashes. -/
theorem eq_append_of_splitOn {first : Bytes} {others : List Bytes}
    (h : p.splitOn slash = first :: others) : p = first ++ others.flatMap (slash :: ·) := by
  have hp : [slash].intercalate (p.splitOn slash) = p := List.intercalate_splitOn slash
  rw [← hp, h]
  clear h hp
  induction others generalizing first with
  | nil => simp
  | cons next others ih => rw [List.intercalate_cons_cons, ih, List.flatMap_cons]; simp

/-- There is an empty place in front of a slash that leads, and of a path
that is empty. -/
theorem splitOn_nil_cons_iff {others : List Bytes} (h : p.splitOn slash = [] :: others) :
    p.isAbsolute = true ↔ others ≠ [] := by
  have hp := eq_append_of_splitOn h
  cases others with
  | nil => simp [hp, isAbsolute]
  | cons next others => simp [hp, isAbsolute]

theorem not_isAbsolute_of_splitOn {first : Bytes} {others : List Bytes}
    (h : p.splitOn slash = first :: others) (hne : first ≠ []) : ¬p.isAbsolute = true := by
  have hmem : first ∈ p.splitOn slash := h ▸ List.mem_cons_self
  have hslash : slash ∉ first := not_mem_of_mem_splitOn hmem
  obtain ⟨byte, first, rfl⟩ := List.exists_cons_of_ne_nil hne
  rw [eq_append_of_splitOn h]
  intro habsolute
  simp [isAbsolute] at habsolute
  exact hslash (by simp [habsolute])

/-- The ways to write a name, told by what stands between the slashes. -/
theorem spells_iff : p.Spells bare ↔ IsPlain bare ∧ ∃ others, p.splitOn slash = bare :: others ∧
    ∀ name ∈ others, name = [] ∨ name = here := by
  constructor
  · rintro ⟨hplain, dots, hdots, rfl⟩
    refine ⟨hplain, dots, Location.splitOn_path hplain.1.2 ?_, hdots⟩
    intro dot hdot
    rcases hdots dot hdot with rfl | rfl
    · simp
    · decide
  · rintro ⟨hplain, others, hsplit, hothers⟩
    exact ⟨hplain, others, hothers, eq_append_of_splitOn hsplit⟩

/-- A name is written as it is called. -/
theorem IsPlain.spells (h : IsPlain bare) : Spells bare bare :=
  ⟨h, [], by simp, by simp⟩

-- ===================================================== what a name is

/-- Nothing counts behind a slash if it is nothing, or `.`. -/
theorem filter_eq_nil_iff {others : List Bytes} :
    (others.filter fun name => name ≠ [] ∧ name ≠ here) = []
      ↔ ∀ name ∈ others, name = [] ∨ name = here := by
  rw [List.filter_eq_nil_iff]
  refine forall₂_congr fun name _ => ?_
  by_cases h : name = []
  · simp [h]
  · simp [h]

/-- A path has no component only if it is empty. -/
theorem components_eq_nil_iff : p.components = [] ↔ p = [] := by
  cases hsplit : p.splitOn slash with
  | nil => exact absurd hsplit (List.splitOn_ne_nil _ _)
  | cons first others =>
      have hp := eq_append_of_splitOn hsplit
      unfold components
      rw [hsplit]
      dsimp only
      by_cases hfirst : first = []
      · by_cases hothers : others = []
        · simp [hp, hfirst, hothers]
        · obtain ⟨next, others, rfl⟩ := List.exists_cons_of_ne_nil hothers
          simp [hp, hfirst]
      · simp [hp, hfirst]

/-- A name is an ordinary component if it is neither `.` nor `..`. -/
theorem Component.ofName_eq_ordinary_iff {name : Bytes} (hname : IsName name) :
    ofName name = .ordinary bare ↔ name = bare ∧ IsPlain bare := by
  unfold ofName
  split
  · rename_i hhere
    refine ⟨nofun, ?_⟩
    rintro ⟨rfl, hplain⟩
    exact absurd hhere hplain.2.1
  · split
    · rename_i hup
      refine ⟨nofun, ?_⟩
      rintro ⟨rfl, hplain⟩
      exact absurd hup hplain.2.2
    · rename_i hhere hup
      rw [Component.ordinary.injEq]
      refine ⟨?_, And.left⟩
      rintro rfl
      exact ⟨rfl, hname, hhere, hup⟩

/-- The paths of one ordinary component are those that are written for it. -/
theorem components_eq_singleton_iff : p.components = [.ordinary bare] ↔ p.Spells bare := by
  rw [spells_iff]
  cases hsplit : p.splitOn slash with
  | nil => exact absurd hsplit (List.splitOn_ne_nil _ _)
  | cons first others =>
      unfold components
      rw [hsplit]
      dsimp only
      by_cases hfirst : first = []
      · -- there is the root, or nothing at all
        have hleft : ¬(IsPlain bare ∧ ∃ rest, first :: others = bare :: rest ∧
            ∀ name ∈ rest, name = [] ∨ name = here) := by
          rintro ⟨hplain, rest, heq, -⟩
          exact hplain.1.1 ((List.cons.inj heq).1 ▸ hfirst)
        refine ⟨fun h => ?_, fun h => absurd h hleft⟩
        by_cases hothers : others = []
        · simp [hfirst, hothers] at h
        · simp [hfirst, hothers] at h
      · have hmem : first ∈ p.splitOn slash := hsplit ▸ List.mem_cons_self
        have hname : IsName first := ⟨hfirst, not_mem_of_mem_splitOn hmem⟩
        rw [if_pos hfirst, List.singleton_append, List.cons.injEq,
          Component.ofName_eq_ordinary_iff hname, List.map_eq_nil_iff, filter_eq_nil_iff]
        constructor
        · rintro ⟨⟨rfl, hplain⟩, hothers⟩
          exact ⟨hplain, others, rfl, hothers⟩
        · rintro ⟨hplain, _, heq, hothers⟩
          cases heq
          exact ⟨⟨rfl, hplain⟩, hothers⟩

example : components (Bytes.ofText "tool//./") = [.ordinary (Bytes.ofText "tool")] := by decide

/-- A name is taken for a bare one if it has one component, and that is an
ordinary name. -/
theorem bareName?_eq_some_iff : p.bareName? = some bare ↔ p.components = [.ordinary bare] := by
  have hfilter : ∀ names : List Bytes, names.filter (fun name => !name.isEmpty && name != here)
      = names.filter fun name => name ≠ [] ∧ name ≠ here := by
    intro names
    refine List.filter_congr fun name _ => ?_
    rw [Bool.eq_iff_iff]
    simp
  unfold bareName? components
  rw [hfilter]
  cases hsplit : p.splitOn slash with
  | nil => exact absurd hsplit (List.splitOn_ne_nil _ _)
  | cons first others =>
      by_cases hfirst : first = []
      · subst hfirst
        have habsolute := splitOn_nil_cons_iff hsplit
        by_cases hothers : others = []
        · simp [hothers]
        · simp [hothers, habsolute.2 hothers]
      · have hrelative := not_isAbsolute_of_splitOn hsplit hfirst
        have hmem : first ∈ p.splitOn slash := hsplit ▸ List.mem_cons_self
        have hname : IsName first := ⟨hfirst, not_mem_of_mem_splitOn hmem⟩
        have hordinary : Component.ofName first = .ordinary bare ↔ _ :=
          Component.ofName_eq_ordinary_iff hname
        dsimp only
        rw [if_pos hfirst, List.singleton_append, List.cons.injEq, hordinary, List.map_eq_nil_iff]
        by_cases hhere : first = here
        · have hnone : ¬((first = bare ∧ IsPlain bare) ∧
              (others.filter fun name => name ≠ [] ∧ name ≠ here) = []) := by
            rintro ⟨⟨rfl, hplain⟩, -⟩
            exact hplain.2.1 hhere
          rw [if_pos (by simp [hhere])]
          exact iff_of_false nofun hnone
        · rw [if_neg (by simp [hrelative, hhere]),
            List.filter_cons_of_pos (by simp [hfirst, hhere])]
          cases others.filter fun name => name ≠ [] ∧ name ≠ here with
          | cons next rest => simp
          | nil =>
              dsimp only
              by_cases hup : first = up
              · have hnone : ¬(first = bare ∧ IsPlain bare) := by
                  rintro ⟨rfl, hplain⟩
                  exact hplain.2.2 hup
                rw [if_pos (by simp [hup])]
                exact iff_of_false nofun fun h => hnone h.1
              · rw [if_neg (by simp [hup]), Option.some.injEq]
                refine ⟨?_, fun h => h.1.1⟩
                rintro rfl
                exact ⟨⟨rfl, hname, hhere, hup⟩, rfl⟩

end LineShell.Path
