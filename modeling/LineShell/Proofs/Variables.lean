/-
Variables that are laid over others. The interpreter's own come before those
of the process (`lookup_overlay`), and those that the process has and the
interpreter has not are left as they are.

An environment that was captured has all variables of the process as text:
it is the one whose names and values are written with their bytes
(`asText?_eq_some_iff`). Laid over these it changes nothing
(`overlay_of_asText?`), since every value is put where it is already. All of
this rests on the variables being text, and a single one that is not leaves
no environment (`asText?_isSome_iff`).
-/
import LineShell.Proofs.Buffered
import LineShell.Proofs.Encoding
import LineShell.Variables
import Mathlib.Data.List.Nodup

namespace LineShell

-- ================================================================ bindings

namespace Bindings

variable {κ ν : Type} [DecidableEq κ]

theorem valueIn_eq_none {name : κ} {entries : List (κ × ν)} (h : name ∉ entries.map Prod.fst) :
    valueIn name entries = none := by
  induction entries with
  | nil => rfl
  | cons entry entries ih =>
      rw [List.map_cons, List.mem_cons, not_or] at h
      rw [valueIn, if_neg h.1, ih h.2]

theorem valueIn_putEntry (name other : κ) (value : ν) (entries : List (κ × ν)) :
    valueIn other (putEntry name value entries)
      = if other = name then some value else valueIn other entries := by
  induction entries with
  | nil => rfl
  | cons entry entries ih =>
      rw [putEntry]
      by_cases hkey : entry.1 = name
      · rw [if_pos hkey, valueIn, valueIn, hkey]
        split <;> rfl
      · rw [if_neg hkey, valueIn, valueIn, ih]
        by_cases h : other = entry.1
        · rw [if_pos h, if_pos h, if_neg (h ▸ hkey)]
        · rw [if_neg h, if_neg h]

/-- What was put under a name is found there, if it was put there once. -/
theorem lookup_putAll {entries : List (κ × ν)} (h : (entries.map Prod.fst).Nodup)
    (b : Bindings κ ν) (name : κ) :
    (b.putAll entries).lookup name
      = match valueIn name entries with
        | some value => some value
        | none => b.lookup name := by
  induction entries generalizing b with
  | nil => rfl
  | cons entry entries ih =>
      rw [List.map_cons, List.nodup_cons] at h
      have hput : (b.put entry.1 entry.2).lookup name
          = if name = entry.1 then some entry.2 else b.lookup name :=
        valueIn_putEntry entry.1 name entry.2 b.entries
      show ((b.put entry.1 entry.2).putAll entries).lookup name = _
      rw [ih h.2, valueIn, hput]
      by_cases hname : name = entry.1
      · rw [if_pos hname, if_pos hname, valueIn_eq_none (hname ▸ h.1)]
      · rw [if_neg hname, if_neg hname]

theorem putEntry_of_notMem {name : κ} {value : ν} {entries : List (κ × ν)}
    (h : name ∉ entries.map Prod.fst) :
    putEntry name value entries = entries ++ [(name, value)] := by
  induction entries with
  | nil => rfl
  | cons entry entries ih =>
      rw [List.map_cons, List.mem_cons, not_or] at h
      rw [putEntry, if_neg (Ne.symm h.1), ih h.2, List.cons_append]

/-- Entries under different names are kept in their order. -/
theorem entries_putAll {entries : List (κ × ν)} (b : Bindings κ ν)
    (h : ((b.entries ++ entries).map Prod.fst).Nodup) :
    (b.putAll entries).entries = b.entries ++ entries := by
  induction entries generalizing b with
  | nil => rw [List.append_nil]; rfl
  | cons entry entries ih =>
      have hnew : (b.put entry.1 entry.2).entries = b.entries ++ [entry] := by
        refine putEntry_of_notMem fun hmem => ?_
        rw [List.map_append, List.nodup_append] at h
        exact h.2.2 _ hmem _ (by simp) rfl
      show ((b.put entry.1 entry.2).putAll entries).entries = _
      rw [ih _ (by rw [hnew]; simpa using h), hnew, List.append_assoc, List.singleton_append]

theorem putEntry_of_mem {entry : κ × ν} {entries : List (κ × ν)}
    (h : (entries.map Prod.fst).Nodup) (hmem : entry ∈ entries) :
    putEntry entry.1 entry.2 entries = entries := by
  induction entries with
  | nil => cases hmem
  | cons first entries ih =>
      rw [List.map_cons, List.nodup_cons] at h
      rw [putEntry]
      rcases List.mem_cons.1 hmem with rfl | hmem
      · rw [if_pos rfl]
      · have hne : first.1 ≠ entry.1 := fun heq => h.1 (heq ▸ List.mem_map_of_mem hmem)
        rw [if_neg hne, ih h.2 hmem]

/-- What is there already changes nothing. -/
theorem putAll_of_subset {entries : List (κ × ν)} (b : Bindings κ ν)
    (h : ∀ entry ∈ entries, entry ∈ b.entries) : b.putAll entries = b := by
  induction entries with
  | nil => rfl
  | cons entry entries ih =>
      have hput : b.put entry.1 entry.2 = b :=
        Bindings.ext (putEntry_of_mem b.nodup (h entry List.mem_cons_self))
      show (b.put entry.1 entry.2).putAll entries = b
      rw [hput]
      exact ih fun other hmem => h other (List.mem_cons_of_mem _ hmem)

end Bindings

/-- Bytes are text if they are the bytes of one. -/
theorem Bytes.isText_iff_exists {bytes : Bytes} :
    bytes.isText ↔ ∃ text, bytes = Bytes.ofText text := by
  simp only [← Utf8.decode?_eq_some_iff, decode?_eq]
  split <;> simp [*]

namespace ProcessVariables

variable {vars : ProcessVariables} {own : Variables}

/-- A variable as it is written with its bytes. -/
def ofTextEntry (entry : String × String) : Bytes × Bytes :=
  (Bytes.ofText entry.1, Bytes.ofText entry.2)

-- ================================================================ overlays

/-- Names are different if their bytes are. -/
theorem nodup_map_ofTextEntry_iff {entries : List (String × String)} :
    ((entries.map ofTextEntry).map Prod.fst).Nodup ↔ (entries.map Prod.fst).Nodup := by
  have hnames : (entries.map ofTextEntry).map Prod.fst
      = (entries.map Prod.fst).map Bytes.ofText := by simp [ofTextEntry]
  rw [hnames]
  exact List.nodup_map_iff Bytes.ofText_injective

/-- One is found under the bytes of its name. -/
theorem valueIn_map_ofTextEntry (entries : List (String × String)) (name : Bytes) :
    Bindings.valueIn name (entries.map ofTextEntry)
      = ((Utf8.decode? name).bind fun text => Bindings.valueIn text entries).map Bytes.ofText := by
  induction entries with
  | nil => cases Utf8.decode? name <;> rfl
  | cons entry entries ih =>
      rw [List.map_cons, Bindings.valueIn, ih]
      show (if name = Bytes.ofText entry.1 then some (Bytes.ofText entry.2) else _) = _
      cases htext : Utf8.decode? name with
      | none =>
          have hne : name ≠ Bytes.ofText entry.1 := by
            rintro rfl
            rw [Utf8.decode?_ofText] at htext
            cases htext
          rw [if_neg hne]
          rfl
      | some text =>
          obtain rfl := Utf8.ofText_of_decode? htext
          rw [Option.bind_some, Option.bind_some, Bindings.valueIn]
          simp only [Bytes.ofText_injective.eq_iff]
          split <;> rfl

/-- What is laid over comes first. -/
theorem lookup_overlay (vars : ProcessVariables) (own : Variables) (name : Bytes) :
    (vars.overlay own).lookup name
      = match (Utf8.decode? name).bind fun text => own.lookup text with
        | some value => some (Bytes.ofText value)
        | none => vars.lookup name := by
  have hall : vars.overlay own = vars.putAll (own.entries.map ofTextEntry) := rfl
  rw [hall, Bindings.lookup_putAll (nodup_map_ofTextEntry_iff.2 own.nodup), valueIn_map_ofTextEntry]
  unfold Bindings.lookup
  cases (Utf8.decode? name).bind fun text => Bindings.valueIn text own.entries <;> rfl

-- ======================================================= variables as text

theorem textEntry?_eq_some_iff {entry : Bytes × Bytes} {text : String × String} :
    textEntry? entry = some text ↔ entry = ofTextEntry text := by
  obtain ⟨name, value⟩ := entry
  obtain ⟨name', value'⟩ := text
  rw [ofTextEntry, Prod.mk.injEq, ← Utf8.decode?_eq_some_iff, ← Utf8.decode?_eq_some_iff]
  unfold textEntry?
  cases Utf8.decode? name with
  | none => simp
  | some name => cases Utf8.decode? value <;> simp

theorem mapM_textEntry?_eq_some_iff {entries : List (Bytes × Bytes)}
    {texts : List (String × String)} :
    entries.mapM textEntry? = some texts ↔ entries = texts.map ofTextEntry := by
  induction entries generalizing texts with
  | nil => cases texts <;> simp
  | cons entry entries ih =>
      cases texts with
      | nil =>
          rw [List.mapM_cons]
          cases textEntry? entry <;> cases entries.mapM textEntry? <;> simp
      | cons text texts =>
          rw [List.map_cons, List.cons.injEq, ← ih, ← textEntry?_eq_some_iff, List.mapM_cons]
          cases textEntry? entry <;> cases entries.mapM textEntry? <;> simp

/-- The variables as text are those that are written with the same bytes. -/
theorem asText?_eq_some_iff :
    vars.asText? = some own ↔ vars.entries = own.entries.map ofTextEntry := by
  unfold asText?
  rw [Option.map_eq_some_iff]
  constructor
  · rintro ⟨texts, htexts, rfl⟩
    rw [mapM_textEntry?_eq_some_iff] at htexts
    have hnodup := vars.nodup
    rw [htexts, nodup_map_ofTextEntry_iff] at hnodup
    rw [Bindings.entries_putAll .empty hnodup]
    exact htexts
  · intro h
    refine ⟨own.entries, mapM_textEntry?_eq_some_iff.2 h, Bindings.ext ?_⟩
    exact Bindings.entries_putAll .empty own.nodup

theorem exists_ofTextEntry_iff {entry : Bytes × Bytes} :
    (∃ text, entry = ofTextEntry text) ↔ entry.1.isText ∧ entry.2.isText := by
  rw [Bytes.isText_iff_exists, Bytes.isText_iff_exists]
  constructor
  · rintro ⟨text, rfl⟩
    exact ⟨⟨_, rfl⟩, _, rfl⟩
  · rintro ⟨⟨name, hname⟩, value, hvalue⟩
    exact ⟨(name, value), Prod.ext hname hvalue⟩

/-- There are such if all are text. -/
theorem asText?_isSome_iff :
    (∃ own, vars.asText? = some own) ↔
      ∀ entry ∈ vars.entries, entry.1.isText ∧ entry.2.isText := by
  simp only [asText?_eq_some_iff, ← exists_ofTextEntry_iff]
  constructor
  · rintro ⟨own, hown⟩ entry hentry
    rw [hown] at hentry
    obtain ⟨text, -, htext⟩ := List.mem_map.1 hentry
    exact ⟨text, htext.symm⟩
  · intro h
    -- decoding and writing again gives back every variable
    let texts := vars.entries.map fun entry => (Utf8.lossy entry.1, Utf8.lossy entry.2)
    have htexts : texts.map ofTextEntry = vars.entries := by
      rw [List.map_map]
      refine (List.map_congr_left fun entry hentry => ?_).trans (List.map_id _)
      obtain ⟨text, rfl⟩ := h entry hentry
      simp [ofTextEntry, Utf8.lossy_ofText]
    have hnodup := vars.nodup
    rw [← htexts, nodup_map_ofTextEntry_iff] at hnodup
    exact ⟨⟨texts, hnodup⟩, htexts.symm⟩

/-- Laid over what they were read from they change nothing. -/
theorem overlay_of_asText? (h : vars.asText? = some own) : vars.overlay own = vars := by
  refine Bindings.putAll_of_subset vars fun entry hentry => ?_
  rw [asText?_eq_some_iff.1 h]
  exact hentry

end ProcessVariables
end LineShell
