/-
How names are resolved, as a relation. There is one rule for each kind of
name (`FileTree.Step`), and the links are counted that are followed on the
way (`FileTree.Resolves`). The walk through a tree is bounded by a number of
links. It ends where the relation says if it may follow that many, and is
refused for their number if it may not (`Resolves.walk_eq`). So names lead to
one location, in one way (`Resolves.unique`).

# Names behind names

What comes behind other names is resolved from where those have led, and the
links add up (`Resolves.append`, `exists_of_resolves_append`).

# Ways without links

A location that was come to from the root has no link on its own way, and
all directories above it may be searched, because every `..` and every link
has led to a place that was passed already or to the root
(`Resolves.reached`). So its names lead to it again, and by no link
(`Reached.resolves`).
-/
import LineShell.Proofs.Location

namespace LineShell

-- ============================================================== resolution

namespace FileTree

/-- A name leads from one location to another, where other names may come
first, by a link or by none. -/
inductive Step (t : FileTree) : Nat → Location → Bytes → Location → List Bytes → Prop
  /-- Behind a slash at the end is nothing, but a directory in front of it. -/
  | slash {l : Location} (directory : t.IsDirectory l) : Step t 0 l [] l []
  | here {l : Location} (searched : t.Searchable l) : Step t 0 l Path.here l []
  /-- The root is its own parent. -/
  | up {l : Location} (searched : t.Searchable l) : Step t 0 l Path.up l.dropLast []
  | down {l : Location} {name : Bytes} {node : Node} (searched : t.Searchable l)
      (found : t.lookup (l ++ [name]) = some node) (notLink : ∀ target, node ≠ .link target) :
      Step t 0 l name (l ++ [name]) []
  /-- A link is replaced by the names of its target, taken against where the
  link stands. -/
  | link {l : Location} {name : Bytes} {target : Path} (searched : t.Searchable l)
      (found : t.lookup (l ++ [name]) = some (.link target)) :
      Step t 1 l name (if target.isAbsolute then [] else l) target.names

/-- Names lead from one location to another, by a number of links. -/
inductive Resolves (t : FileTree) : Nat → Location → List Bytes → Location → Prop
  | arrived (l : Location) : Resolves t 0 l [] l
  | step {k n : Nat} {l l' l'' : Location} {name : Bytes} {first rest : List Bytes}
      (one : t.Step k l name l' first) (more : Resolves t n l' (first ++ rest) l'') :
      Resolves t (k + n) l (name :: rest) l''

variable {t : FileTree} {k n m links : Nat} {l l' l'' : Location} {name : Bytes}
  {first names rest : List Bytes}

/-- Every name is taken in a directory. -/
theorem Step.isDirectory (h : t.Step k l name l' first) : t.IsDirectory l := by
  cases h with
  | slash directory => exact directory
  | here searched | up searched | down searched | link searched => exact searched.isDirectory

theorem Resolves.isDirectory (h : t.Resolves n l (name :: rest) l') : t.IsDirectory l := by
  cases h with
  | step one more => exact one.isDirectory

theorem Resolves.searchable (h : t.Resolves n l (name :: rest) l') (hname : name ≠ []) :
    t.Searchable l := by
  cases h with
  | step one more =>
    cases one with
    | slash => exact absurd rfl hname
    | here searched | up searched | down searched | link searched => exact searched

-- ------------------------------------------------------------- and the walk

/-- The walk takes a step, unless that is one link too many. -/
theorem Step.walk_eq (h : t.Step k l name l' first) (links : Nat) (rest : List Bytes) :
    t.walk links l (name :: rest)
      = if k ≤ links then t.walk (links - k) l' (first ++ rest) else .error .tooManyLinks := by
  rw [walk]
  cases h with
  | slash directory => simp [directory]
  | here searched =>
      obtain ⟨entered, hentered⟩ := searchable_iff.1 searched
      simp [hentered, show Path.here ≠ [] by decide, show Path.here ≠ Path.up by decide]
  | up searched =>
      obtain ⟨entered, hentered⟩ := searchable_iff.1 searched
      simp [hentered, show Path.up ≠ [] by decide]
  | @down _ _ node searched found notLink =>
      obtain ⟨⟨hplain, -, -⟩, -⟩ := seated_of_lookup found
      have hentry := entryAt_eq_ok_iff.2 ⟨searched, found⟩
      rw [if_neg hplain.1.1, if_neg (not_or.2 hplain.2), if_pos (Nat.zero_le _)]
      split
      · rename_i herror
        rw [hentry] at herror
        cases herror
      · rename_i target hlink
        rw [hentry] at hlink
        exact absurd (Except.ok.inj hlink) (notLink target)
      · rfl
  | @link _ _ target searched found =>
      obtain ⟨⟨hplain, -, -⟩, -⟩ := seated_of_lookup found
      rw [if_neg hplain.1.1, if_neg (not_or.2 hplain.2), entryAt_eq_ok_iff.2 ⟨searched, found⟩]
      cases links with
      | zero => rfl
      | succ links => simp

/-- The walk ends where names lead to, if it may follow all the links. -/
theorem Resolves.walk_eq (h : t.Resolves n l names l') (links : Nat) :
    t.walk links l names = if n ≤ links then .ok l' else .error .tooManyLinks := by
  induction h generalizing links with
  | arrived l => rw [walk, if_pos (Nat.zero_le _)]
  | @step k n l mid l' name first rest one more ih =>
      -- what the step leaves of the links has to be enough for the rest
      rw [one.walk_eq, ih]
      by_cases hk : k ≤ links
      · have hfew : n ≤ links - k ↔ k + n ≤ links := by omega
        simp only [if_pos hk, hfew]
      · rw [if_neg hk, if_neg (by omega)]

/-- Where a walk ends the names lead to. -/
theorem exists_resolves_of_walk (h : t.walk links l names = .ok l') :
    ∃ n, t.Resolves n l names l' := by
  fun_induction FileTree.walk t links l names
  case case1 =>
    cases h
    exact ⟨0, .arrived _⟩
  case case2 hdirectory ih =>
    obtain ⟨n, hn⟩ := ih h
    exact ⟨_, .step (.slash hdirectory) hn⟩
  case case5 name rest hne hname entered hentered ih =>
    obtain ⟨n, hn⟩ := ih h
    have hsearch := searchable_iff.2 ⟨entered, hentered⟩
    rcases hname with rfl | rfl
    · exact ⟨_, .step (.here hsearch) hn⟩
    · exact ⟨_, .step (.up hsearch) hn⟩
  case case8 hentry links ih =>
    obtain ⟨n, hn⟩ := ih h
    obtain ⟨hsearch, hfound⟩ := entryAt_eq_ok_iff.1 hentry
    exact ⟨_, .step (.link hsearch hfound) hn⟩
  case case9 node hnode hentry ih =>
    obtain ⟨n, hn⟩ := ih h
    obtain ⟨hsearch, hfound⟩ := entryAt_eq_ok_iff.1 hentry
    exact ⟨_, .step (.down hsearch hfound hnode) hn⟩
  all_goals cases h

theorem walk_eq_ok_iff :
    t.walk links l names = .ok l' ↔ ∃ n, t.Resolves n l names l' ∧ n ≤ links := by
  constructor
  · intro h
    obtain ⟨n, hn⟩ := exists_resolves_of_walk h
    refine ⟨n, hn, ?_⟩
    rw [hn.walk_eq] at h
    split at h
    · assumption
    · cases h
  · rintro ⟨n, hn, hfew⟩
    rw [hn.walk_eq, if_pos hfew]

/-- Names lead to one location, in one way. -/
theorem Resolves.unique (h : t.Resolves n l names l') (h' : t.Resolves m l names l'') :
    n = m ∧ l' = l'' := by
  -- walks that may follow as many links as either of them tell them apart
  have hwalk := fun links => (h.walk_eq links).symm.trans (h'.walk_eq links)
  have hn := hwalk n
  have hm := hwalk m
  rw [if_pos (Nat.le_refl n)] at hn
  rw [if_pos (Nat.le_refl m)] at hm
  split at hn
  · split at hm
    · exact ⟨by omega, Except.ok.inj hn⟩
    · cases hm
  · cases hn

-- ------------------------------------------------------- names behind names

/-- Names behind others lead on from where those have led. -/
theorem Resolves.append (h : t.Resolves n l names l') (hrest : t.Resolves m l' rest l'') :
    t.Resolves (n + m) l (names ++ rest) l'' := by
  induction h with
  | arrived l =>
      rw [Nat.zero_add]
      exact hrest
  | step one more ih =>
      rw [Nat.add_assoc, List.cons_append]
      refine .step one ?_
      rw [← List.append_assoc]
      exact ih hrest

theorem exists_of_resolves_append (h : t.Resolves n l (names ++ rest) l'') :
    ∃ k m l', t.Resolves k l names l' ∧ t.Resolves m l' rest l'' ∧ k + m = n := by
  -- the names in front are used up, those of a link coming in its place
  generalize hall : names ++ rest = all at h
  induction h generalizing names with
  | arrived l =>
      obtain ⟨rfl, rfl⟩ := List.append_eq_nil_iff.1 hall
      exact ⟨0, 0, l, .arrived l, .arrived l, rfl⟩
  | @step k n l mid l'' name first tail one more ih =>
      cases names with
      | nil =>
          rw [List.nil_append] at hall
          rw [hall]
          exact ⟨0, k + n, l, .arrived l, .step one more, Nat.zero_add _⟩
      | cons front names =>
          rw [List.cons_append, List.cons.injEq] at hall
          obtain ⟨rfl, rfl⟩ := hall
          obtain ⟨k', m, l', hfront, hrest, hsum⟩ := ih (List.append_assoc first names rest)
          exact ⟨k + k', m, l', .step one hfront, hrest, by omega⟩

/-- A slash more in front of another name makes no difference. -/
theorem resolves_append_slash_iff (hrest : rest ≠ []) :
    t.Resolves n l (names ++ [] :: rest) l' ↔ t.Resolves n l (names ++ rest) l' := by
  constructor
  · intro h
    obtain ⟨k, m, middle, hfront, hmore, rfl⟩ := exists_of_resolves_append h
    -- nothing stands under an empty name, so there is one rule that it goes by
    cases hmore with
    | step one more =>
      cases one with
      | slash =>
          rw [Nat.zero_add]
          exact hfront.append more
      | down searched found | link searched found =>
          exact absurd rfl (seated_of_lookup found).1.plain.1.1
  · intro h
    obtain ⟨k, m, middle, hfront, hmore, rfl⟩ := exists_of_resolves_append h
    obtain ⟨name, rest, rfl⟩ := List.exists_cons_of_ne_nil hrest
    have hslash := Resolves.step (.slash hmore.isDirectory) hmore
    rw [Nat.zero_add] at hslash
    exact hfront.append hslash

-- ------------------------------------------------------ ways without links

/-- A location that the root leads to by its names alone, all directories
above it being open to a search. -/
inductive Reached (t : FileTree) : Location → Prop
  | root : Reached t []
  | child {l : Location} {name : Bytes} {node : Node} (above : Reached t l)
      (searched : t.Searchable l) (found : t.lookup (l ++ [name]) = some node)
      (notLink : ∀ target, node ≠ .link target) : Reached t (l ++ [name])

theorem Reached.dropLast (h : t.Reached l) : t.Reached l.dropLast := by
  cases h with
  | root => exact .root
  | child above =>
      rw [List.dropLast_concat]
      exact above

theorem Reached.grounded (h : t.Reached l) : t.Grounded l := by
  cases h with
  | root => exact isDirectory_root.grounded
  | child above searched found notLink => exact ⟨_, found, notLink⟩

theorem Reached.resolves (h : t.Reached l) : t.Resolves 0 [] l l := by
  induction h with
  | root => exact .arrived []
  | child above searched found notLink ih =>
      exact ih.append (.step (.down searched found notLink) (.arrived _))

/-- A step from such a location leads to another one. -/
theorem Step.reached (h : t.Step k l name l' first) (hl : t.Reached l) : t.Reached l' := by
  cases h with
  | slash | here => exact hl
  | up => exact hl.dropLast
  | down searched found notLink => exact .child hl searched found notLink
  | link =>
      -- a target goes on from the root, or from where the link stands
      split
      · exact .root
      · exact hl

theorem Resolves.reached (h : t.Resolves n l names l') (hl : t.Reached l) : t.Reached l' := by
  induction h with
  | arrived => exact hl
  | step one more ih => exact ih (one.reached hl)

/-- The root leads to a grounded location if and only if a walk along its names
does. -/
theorem Grounded.walk_eq_ok_iff (hl : t.Grounded l) (links : Nat) :
    t.walk links [] l = .ok l' ↔ l' = l ∧ t.Reached l := by
  constructor
  · intro h
    rw [← List.append_nil l] at h
    have hend := hl.walk_append h
    rw [FileTree.walk] at hend
    cases hend
    obtain ⟨n, hn⟩ := exists_resolves_of_walk h
    exact ⟨rfl, hn.reached .root⟩
  · rintro ⟨rfl, hreached⟩
    exact FileTree.walk_eq_ok_iff.2 ⟨0, hreached.resolves, Nat.zero_le _⟩

end FileTree
end LineShell
