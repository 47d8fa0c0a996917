/-
The program's arguments, by the grammar they follow. A command line is a
row of items: the switch `--plain`, and the two options `--prompt` and
`--log`, each with its value behind it. Behind the items there may be
words that ask for help, and last the word that ends the options. Of any
other row of words it is said what is wrong with it.

# The items that have been read

The reading knows of no items; it goes by single words, and whether a word
is an option, a value or a request for help depends on all that stands
before it. So the state of the reading is told by the items that it has
read (`Options.readAfter`). From such a state another item leads to the next
(`readAfter_plain`, `readAfter_set`), and only the words behind the items
lead anywhere else. Every row of words is thereby cut into items and a
rest, and the rest alone decides what comes of it (`decided`).

What a single word does to a reading is said first, for forms that take no
positional words, and nothing behind that opens `readFrom`.
-/
import LineShell.Options
import Mathlib.Data.List.Perm.Basic

namespace LineShell

-- ============================================================== one word

namespace ArgumentForm

variable {form : ArgumentForm} {p : Progress} {word value : String} {rest : List String}

/-- A word that is an option, known or not. -/
structure IsOption (word : String) : Prop where
  like : isOptionLike word = true
  notHelp : word ∉ helpWords
  notMarker : word ≠ endOfOptions

theorem readFrom_help (hopen : p.optionsEnded = false) (h : word ∈ helpWords) :
    form.readFrom p (word :: rest) = form.readFrom { p with helpRequested := true } rest := by
  rw [readFrom.eq_def]
  simp [hopen, h]

theorem readFrom_marker (hopen : p.optionsEnded = false) :
    form.readFrom p (endOfOptions :: rest)
      = form.readFrom { p with optionsEnded := true } rest := by
  rw [readFrom.eq_def]
  simp [hopen, helpWords, isOptionLike, endOfOptions]

/-- There is no place for a positional word. -/
theorem readFrom_positional (harity : form.arity = .none)
    (h : p.optionsEnded = true ∨ word ∉ helpWords ∧ isOptionLike word = false) :
    form.readFrom p (word :: rest) = .refused (unrecognized word) := by
  rw [readFrom.eq_def]
  rcases h with hended | ⟨hhelp, hlike⟩
  · simp [hended, place?, harity]
  · simp [hhelp, hlike, place?, harity]

/-- Behind a request for help no option is read any more. -/
theorem readFrom_trailing (hopen : p.optionsEnded = false) (hhelp : p.helpRequested = true)
    (h : IsOption word) : form.readFrom p (word :: rest) = .refused trailing := by
  rw [readFrom.eq_def]
  simp [hopen, hhelp, h.like, h.notHelp, h.notMarker]

section option

variable (hopen : p.optionsEnded = false) (hhelp : p.helpRequested = false) (h : IsOption word)

include hopen hhelp h

theorem readFrom_switch (hswitch : word ∈ form.switches) :
    form.readFrom p (word :: rest)
      = form.readFrom { p with arguments :=
          { p.arguments with switches := word :: p.arguments.switches } } rest := by
  rw [readFrom.eq_def]
  simp [hopen, hhelp, h.like, h.notHelp, h.notMarker, hswitch]

theorem readFrom_value (hswitch : word ∉ form.switches) (hvalued : word ∈ form.valued)
    (hnew : p.arguments.values.lookup word = none) :
    form.readFrom p (word :: value :: rest)
      = form.readFrom { p with arguments :=
          { p.arguments with values := p.arguments.values ++ [(word, value)] } } rest := by
  rw [readFrom.eq_def]
  simp [hopen, hhelp, h.like, h.notHelp, h.notMarker, hswitch, hvalued, hnew]

theorem readFrom_repeated (hswitch : word ∉ form.switches) (hvalued : word ∈ form.valued)
    (hgiven : p.arguments.values.lookup word ≠ none) :
    form.readFrom p (word :: value :: rest) = .refused (valueRepeated word value) := by
  rw [readFrom.eq_def]
  simp [hopen, hhelp, h.like, h.notHelp, h.notMarker, hswitch, hvalued,
    Option.isSome_iff_ne_none.2 hgiven]

theorem readFrom_missing (hswitch : word ∉ form.switches) (hvalued : word ∈ form.valued) :
    form.readFrom p [word] = .refused (valueMissing word) := by
  rw [readFrom.eq_def]
  simp [hopen, hhelp, h.like, h.notHelp, h.notMarker, hswitch, hvalued]

theorem readFrom_unknown (hswitch : word ∉ form.switches) (hvalued : word ∉ form.valued) :
    form.readFrom p (word :: rest) = .refused (unrecognized word) := by
  rw [readFrom.eq_def]
  simp [hopen, hhelp, h.like, h.notHelp, h.notMarker, hswitch, hvalued]

end option

end ArgumentForm

namespace Options

open ArgumentForm (endOfOptions helpWords IsOption)

-- ============================================================ the grammar

/-- What the options with a value set. -/
inductive Setting
  | prompt
  | log
  deriving DecidableEq, Repr

def Setting.word : Setting → String
  | prompt => "--prompt"
  | log => "--log"

inductive Item
  | plain
  | set (setting : Setting) (value : String)
  deriving DecidableEq, Repr

/-- The words of an item. A value may be any word. -/
def Item.words : Item → List String
  | plain => ["--plain"]
  | set setting value => [setting.word, value]

/-- The words of items, one item after the other. -/
def written (items : List Item) : List String :=
  items.flatMap Item.words

def Item.value? (setting : Setting) : Item → Option String
  | plain => none
  | set other value => if other = setting then some value else none

/-- The values that items give to a setting. -/
def values (setting : Setting) (items : List Item) : List String :=
  items.filterMap (Item.value? setting)

/-- No setting is given a value twice. `--plain` may be repeated. -/
def SetOnce (items : List Item) : Prop :=
  ∀ setting, (values setting items).length ≤ 1

/-- Words that all ask for help; there is at least one. -/
def AskForHelp (words : List String) : Prop :=
  words ≠ [] ∧ ∀ word ∈ words, word = "--help" ∨ word = "help"

/-- What may stand at the end: the word that ends the options, or nothing. -/
def IsEnd (words : List String) : Prop :=
  words = [] ∨ words = ["--"]

/-- The options that items express. -/
def ofItems (items : List Item) : Options where
  prompt := (values .prompt items).head?.getD "> "
  plain := items.contains .plain
  log := (values .log items).head?.getD "off"

variable {setting other : Setting} {item : Item} {items before : List Item}
  {word value : String} {words rest : List String}

theorem values_append (setting : Setting) (items more : List Item) :
    values setting (items ++ more) = values setting items ++ values setting more :=
  List.filterMap_append

theorem Setting.beq_word (h : other ≠ setting) : (setting.word == other.word) = false := by
  revert h
  cases setting <;> cases other <;> decide

theorem Setting.isOption_word (setting : Setting) : IsOption setting.word := by
  cases setting <;> exact ⟨by decide, by decide, by decide⟩

theorem isOption_plain : IsOption "--plain" :=
  ⟨by decide, by decide, by decide⟩

theorem mem_valued_iff : word ∈ form.valued ↔ ∃ setting : Setting, word = setting.word := by
  constructor
  · intro h
    rcases List.mem_cons.1 h with rfl | h
    · exact ⟨.prompt, rfl⟩
    · exact ⟨.log, List.mem_singleton.1 h⟩
  · rintro ⟨setting, rfl⟩
    cases setting <;> decide

theorem Setting.word_mem (setting : Setting) :
    setting.word ∉ form.switches ∧ setting.word ∈ form.valued := by
  cases setting <;> decide

theorem mem_helpWords_iff : word ∈ helpWords ↔ word = "--help" ∨ word = "help" := by
  simp [helpWords]

-- ======================================================= the items so far

/-- The arguments that have been read with items. -/
def argumentsOf (items : List Item) : Arguments where
  values := items.filterMap fun
    | .plain => none
    | .set setting value => some (setting.word, value)
  switches := (items.filterMap fun
    | .plain => some "--plain"
    | .set _ _ => none).reverse

/-- Reads words behind items. -/
def readAfter (items : List Item) (words : List String) : ArgumentOutcome :=
  form.readFrom { arguments := argumentsOf items } words

theorem lookup_argumentsOf (setting : Setting) (items : List Item) :
    (argumentsOf items).values.lookup setting.word = (values setting items).head? := by
  induction items with
  | nil => rfl
  | cons item items ih =>
      cases item with
      | plain => exact ih
      | set other value =>
          by_cases h : other = setting
          · subst h
            simp [argumentsOf, values, Item.value?]
          · have hlater : values setting (.set other value :: items) = values setting items := by
              simp [values, Item.value?, h]
            rw [hlater, ← ih]
            simp [argumentsOf, List.lookup_cons, Setting.beq_word h]

theorem contains_argumentsOf (items : List Item) :
    (argumentsOf items).switches.contains "--plain" = items.contains .plain := by
  induction items with
  | nil => rfl
  | cons item items ih =>
      cases item with
      | plain => simp [argumentsOf]
      | set setting value => simpa [argumentsOf] using ih

theorem ofArguments_argumentsOf (items : List Item) :
    ofArguments (argumentsOf items) = ofItems items := by
  have hprompt := lookup_argumentsOf .prompt items
  have hlog := lookup_argumentsOf .log items
  unfold Setting.word at hprompt hlog
  rw [ofArguments, ofItems, hprompt, hlog, contains_argumentsOf]

theorem readAfter_plain (items : List Item) (rest : List String) :
    readAfter items ("--plain" :: rest) = readAfter (items ++ [.plain]) rest := by
  have hnext : argumentsOf (items ++ [.plain])
      = { argumentsOf items with switches := "--plain" :: (argumentsOf items).switches } := by
    simp [argumentsOf]
  rw [readAfter, readAfter, hnext, ArgumentForm.readFrom_switch rfl rfl isOption_plain (by decide)]

/-- The word behind an option is its value, whatever it is. -/
theorem readAfter_set (h : values setting items = []) (value : String) (rest : List String) :
    readAfter items (setting.word :: value :: rest)
      = readAfter (items ++ [.set setting value]) rest := by
  have hnew : (argumentsOf items).values.lookup setting.word = none := by
    rw [lookup_argumentsOf, h]
    rfl
  have hnext : argumentsOf (items ++ [.set setting value])
      = { argumentsOf items with
          values := (argumentsOf items).values ++ [(setting.word, value)] } := by
    simp [argumentsOf]
  rw [readAfter, readAfter, hnext,
    ArgumentForm.readFrom_value rfl rfl setting.isOption_word setting.word_mem.1
      setting.word_mem.2 hnew]

-- ==================================================== behind the items

/-- Behind the word that ends the options there is room for nothing. -/
theorem isEnd_or_refused {p : ArgumentForm.Progress} (hopen : p.optionsEnded = false)
    (rest : List String) : IsEnd (endOfOptions :: rest) ∨
      ∃ message, form.readFrom p (endOfOptions :: rest) = .refused message := by
  cases rest with
  | nil => exact .inl (.inr rfl)
  | cons word rest =>
      rw [ArgumentForm.readFrom_marker hopen]
      exact .inr ⟨_, ArgumentForm.readFrom_positional rfl (.inl rfl)⟩

theorem readFrom_of_isEnd {p : ArgumentForm.Progress} (hopen : p.optionsEnded = false)
    (h : IsEnd words) : form.readFrom p words
      = if p.helpRequested then .helpRequested else .given p.arguments := by
  rcases h with rfl | rfl
  · rfl
  · exact ArgumentForm.readFrom_marker hopen

theorem readFrom_of_help {p : ArgumentForm.Progress} (hopen : p.optionsEnded = false)
    (hhelp : p.helpRequested = true) {helps ends : List String}
    (hhelps : ∀ word ∈ helps, word = "--help" ∨ word = "help") (hends : IsEnd ends) :
    form.readFrom p (helps ++ ends) = .helpRequested := by
  induction helps generalizing p with
  | nil =>
      rw [List.nil_append, readFrom_of_isEnd hopen hends, if_pos hhelp]
  | cons word helps ih =>
      have hword := mem_helpWords_iff.2 (hhelps word List.mem_cons_self)
      rw [List.cons_append, ArgumentForm.readFrom_help hopen hword]
      exact ih hopen rfl fun other hmem => hhelps other (List.mem_cons_of_mem _ hmem)

/-- What may follow a request for help. -/
theorem decided_help {p : ArgumentForm.Progress} (hopen : p.optionsEnded = false)
    (hhelp : p.helpRequested = true) (words : List String) :
    (∃ helps ends, (∀ word ∈ helps, word = "--help" ∨ word = "help") ∧ IsEnd ends ∧
        words = helps ++ ends) ∨
      ∃ message, form.readFrom p words = .refused message := by
  induction words generalizing p with
  | nil => exact .inl ⟨[], [], by simp, .inl rfl, rfl⟩
  | cons word rest ih =>
      by_cases hword : word ∈ helpWords
      · rw [ArgumentForm.readFrom_help hopen hword]
        rcases ih (p := { p with helpRequested := true }) hopen rfl with
          ⟨helps, ends, hhelps, hends, rfl⟩ | hrefused
        · refine .inl ⟨word :: helps, ends, ?_, hends, rfl⟩
          intro other hmem
          rcases List.mem_cons.1 hmem with rfl | hmem
          · exact mem_helpWords_iff.1 hword
          · exact hhelps other hmem
        · exact .inr hrefused
      · by_cases hmarker : word = endOfOptions
        · subst hmarker
          rcases isEnd_or_refused hopen rest with hend | hrefused
          · exact .inl ⟨[], _, by simp, hend, rfl⟩
          · exact .inr hrefused
        · refine .inr ?_
          by_cases hlike : ArgumentForm.isOptionLike word
          · exact ⟨_, ArgumentForm.readFrom_trailing hopen hhelp ⟨hlike, hword, hmarker⟩⟩
          · exact ⟨_, ArgumentForm.readFrom_positional rfl (.inr ⟨hword, by simpa using hlike⟩)⟩

/-- Words that go on with items up to the end. -/
def Fit (before : List Item) (words : List String) : Prop :=
  ∃ items ends, SetOnce (before ++ items) ∧ IsEnd ends ∧ words = written items ++ ends

/-- Words that go on with items and then ask for help. -/
def Ask (before : List Item) (words : List String) : Prop :=
  ∃ items helps ends, SetOnce (before ++ items) ∧ AskForHelp helps ∧ IsEnd ends ∧
    words = written items ++ helps ++ ends

/-- There are three ways for words to go on. -/
def Decided (before : List Item) (words : List String) : Prop :=
  Fit before words ∨ Ask before words ∨ ∃ message, readAfter before words = .refused message

theorem Decided.cons (h : Decided (before ++ [item]) rest)
    (hstep : readAfter before (item.words ++ rest) = readAfter (before ++ [item]) rest) :
    Decided before (item.words ++ rest) := by
  rcases h with ⟨items, ends, honce, hends, rfl⟩ | ⟨items, helps, ends, honce, hhelps, hends, rfl⟩
    | ⟨message, h⟩
  · refine .inl ⟨item :: items, ends, by simpa using honce, hends, ?_⟩
    simp [written]
  · refine .inr (.inl ⟨item :: items, helps, ends, by simpa using honce, hhelps, hends, ?_⟩)
    simp [written]
  · exact .inr (.inr ⟨message, hstep.trans h⟩)

theorem SetOnce.plain (h : SetOnce before) : SetOnce (before ++ [.plain]) := by
  intro setting
  have hsame : values setting (before ++ [.plain]) = values setting before := by
    simp [values, Item.value?]
  rw [hsame]
  exact h setting

theorem SetOnce.set (h : SetOnce before) (hnew : values setting before = []) (value : String) :
    SetOnce (before ++ [.set setting value]) := by
  intro other
  rw [values_append]
  by_cases heq : setting = other
  · subst heq
    rw [hnew, List.nil_append]
    simp [values, Item.value?]
  · simpa [values, Item.value?, heq] using h other

/-- An item is the only one that sets what it sets. -/
theorem SetOnce.values_eq_nil (h : SetOnce (before ++ .set setting value :: items)) :
    values setting before = [] := by
  have hlen := h setting
  have hset : values setting (.set setting value :: items) = value :: values setting items := by
    simp [values, Item.value?]
  rw [values_append, hset, List.length_append, List.length_cons] at hlen
  exact List.length_eq_zero_iff.1 (by omega)

theorem readAfter_written (h : SetOnce (before ++ items)) (rest : List String) :
    readAfter before (written items ++ rest) = readAfter (before ++ items) rest := by
  induction items generalizing before with
  | nil => rw [List.append_nil]; rfl
  | cons item items ih =>
      rw [show before ++ item :: items = before ++ [item] ++ items by simp] at h ⊢
      rw [← ih h]
      cases item with
      | plain => exact readAfter_plain before _
      | set setting value =>
          have hnew : values setting before = [] := by
            rw [List.append_assoc] at h
            exact h.values_eq_nil
          exact readAfter_set hnew value _

theorem decided (before : List Item) (honce : SetOnce before) (words : List String) :
    Decided before words := by
  match words with
  | [] => exact .inl ⟨[], [], by simpa using honce, .inl rfl, rfl⟩
  | word :: rest =>
      by_cases hplain : word = "--plain"
      · subst hplain
        exact (decided _ honce.plain rest).cons (readAfter_plain before rest)
      by_cases hset : ∃ setting : Setting, word = setting.word
      · obtain ⟨setting, rfl⟩ := hset
        obtain ⟨hswitch, hvalued⟩ := setting.word_mem
        match rest with
        | [] =>
            exact .inr (.inr ⟨_, ArgumentForm.readFrom_missing rfl rfl setting.isOption_word
              hswitch hvalued⟩)
        | value :: rest =>
            by_cases hnew : values setting before = []
            · exact (decided _ (honce.set hnew value) rest).cons (readAfter_set hnew value rest)
            · refine .inr (.inr ⟨_, ArgumentForm.readFrom_repeated rfl rfl setting.isOption_word
                hswitch hvalued ?_⟩)
              rw [lookup_argumentsOf]
              simpa using hnew
      by_cases hhelp : word ∈ helpWords
      · rcases decided_help (p := { arguments := argumentsOf before, helpRequested := true }) rfl
          rfl rest with ⟨helps, ends, hhelps, hends, rfl⟩ | ⟨message, hrefused⟩
        · refine .inr (.inl ⟨[], word :: helps, ends, by simpa using honce, ⟨by simp, ?_⟩, hends,
            rfl⟩)
          intro other hmem
          rcases List.mem_cons.1 hmem with rfl | hmem
          · exact mem_helpWords_iff.1 hhelp
          · exact hhelps other hmem
        · refine .inr (.inr ⟨message, ?_⟩)
          rw [readAfter, ArgumentForm.readFrom_help rfl hhelp]
          exact hrefused
      by_cases hmarker : word = endOfOptions
      · subst hmarker
        rcases isEnd_or_refused (p := { arguments := argumentsOf before }) rfl rest with
          hend | hrefused
        · exact .inl ⟨[], _, by simpa using honce, hend, rfl⟩
        · exact .inr (.inr hrefused)
      refine .inr (.inr ?_)
      by_cases hlike : ArgumentForm.isOptionLike word
      · refine ⟨_, ArgumentForm.readFrom_unknown rfl rfl ⟨hlike, hhelp, hmarker⟩ ?_ ?_⟩
        · intro hmem
          exact hplain (List.mem_singleton.1 hmem)
        · rwa [mem_valued_iff]
      · exact ⟨_, ArgumentForm.readFrom_positional rfl (.inr ⟨hhelp, by simpa using hlike⟩)⟩

-- ========================================================= the outcome

theorem read_of_fit (command : List String) {items : List Item} {ends : List String}
    (honce : SetOnce items) (hends : IsEnd ends) :
    read command (written items ++ ends) = .options (ofItems items) := by
  have hread : form.read (written items ++ ends) = .given (argumentsOf items) := by
    refine (@readAfter_written items [] honce ends).trans ?_
    exact readFrom_of_isEnd rfl hends
  rw [read, hread]
  exact congrArg Outcome.options (ofArguments_argumentsOf items)

theorem read_of_ask (command : List String) {items : List Item} {helps ends : List String}
    (honce : SetOnce items) (hhelps : AskForHelp helps) (hends : IsEnd ends) :
    read command (written items ++ helps ++ ends)
      = .usage (form.usage (" ".intercalate command)) := by
  obtain ⟨hne, hwords⟩ := hhelps
  have hread : form.read (written items ++ helps ++ ends) = .helpRequested := by
    rw [List.append_assoc]
    refine (@readAfter_written items [] honce _).trans ?_
    cases helps with
    | nil => exact absurd rfl hne
    | cons word helps =>
        have hword := mem_helpWords_iff.2 (hwords word List.mem_cons_self)
        refine (ArgumentForm.readFrom_help rfl hword).trans ?_
        exact readFrom_of_help rfl rfl
          (fun other hmem => hwords other (List.mem_cons_of_mem _ hmem)) hends
  rw [read, hread]

/-- Nothing else can come of words. -/
theorem outcome_cases (command words : List String) :
    (∃ items ends, SetOnce items ∧ IsEnd ends ∧ words = written items ++ ends ∧
        read command words = .options (ofItems items)) ∨
      (∃ items helps ends, SetOnce items ∧ AskForHelp helps ∧ IsEnd ends ∧
        words = written items ++ helps ++ ends ∧
        read command words = .usage (form.usage (" ".intercalate command))) ∨
      ∃ message, read command words = .refused message := by
  rcases decided [] (fun _ => Nat.zero_le 1) words with
    ⟨items, ends, honce, hends, rfl⟩ | ⟨items, helps, ends, honce, hhelps, hends, rfl⟩ |
    ⟨message, h⟩
  · exact .inl ⟨items, ends, honce, hends, rfl, read_of_fit command honce hends⟩
  · exact .inr (.inl ⟨items, helps, ends, honce, hhelps, hends, rfl,
      read_of_ask command honce hhelps hends⟩)
  · have hread : form.read words = .refused message := h
    refine .inr (.inr ⟨message, ?_⟩)
    rw [read, hread]

theorem read_eq_options_iff (command words : List String) (o : Options) :
    read command words = .options o ↔
      ∃ items ends, SetOnce items ∧ IsEnd ends ∧ words = written items ++ ends ∧
        o = ofItems items := by
  constructor
  · intro h
    rcases outcome_cases command words with ⟨items, ends, honce, hends, hwords, hread⟩ |
      ⟨items, helps, ends, -, -, -, -, hread⟩ | ⟨message, hread⟩
    all_goals
      rw [hread] at h
      cases h
    exact ⟨items, ends, honce, hends, hwords, rfl⟩
  · rintro ⟨items, ends, honce, hends, rfl, rfl⟩
    exact read_of_fit command honce hends

theorem read_eq_usage_iff (command words : List String) (text : String) :
    read command words = .usage text ↔
      (∃ items helps ends, SetOnce items ∧ AskForHelp helps ∧ IsEnd ends ∧
        words = written items ++ helps ++ ends) ∧
        text = form.usage (" ".intercalate command) := by
  constructor
  · intro h
    rcases outcome_cases command words with ⟨items, ends, -, -, -, hread⟩ |
      ⟨items, helps, ends, honce, hhelps, hends, hwords, hread⟩ | ⟨message, hread⟩
    all_goals
      rw [hread] at h
      cases h
    exact ⟨⟨items, helps, ends, honce, hhelps, hends, hwords⟩, rfl⟩
  · rintro ⟨⟨items, helps, ends, honce, hhelps, hends, rfl⟩, rfl⟩
    exact read_of_ask command honce hhelps hends

/-- Items give the same options in any order. -/
theorem ofItems_perm {items others : List Item} (honce : SetOnce items)
    (h : items.Perm others) : SetOnce others ∧ ofItems items = ofItems others := by
  have hvalues : ∀ setting, values setting items = values setting others := by
    intro setting
    have hperm : (values setting items).Perm (values setting others) := h.filterMap _
    rcases hv : values setting items with _ | ⟨value, _ | ⟨second, more⟩⟩
    · rw [hv] at hperm
      exact hperm.nil_eq
    · rw [hv] at hperm
      exact List.singleton_perm.1 hperm
    · have hlen := honce setting
      rw [hv] at hlen
      simp at hlen
  refine ⟨fun setting => hvalues setting ▸ honce setting, ?_⟩
  rw [ofItems, ofItems, hvalues, hvalues]
  congr 1
  exact h.contains_eq

/-- Arguments are accepted if they are items, in any order, no setting twice,
and at the end perhaps the word that ends the options. The options are then
those that the items express, or else the defaults, and they do not depend
on the order. The usage is given if there are such items and behind them
one or more words that ask for it. All other words are refused. -/
theorem read_by_items (command words : List String) :
    (∀ o, read command words = .options o ↔
        ∃ items ends, SetOnce items ∧ IsEnd ends ∧ words = written items ++ ends ∧
          o = ofItems items) ∧
      (∀ text, read command words = .usage text ↔
        (∃ items helps ends, SetOnce items ∧ AskForHelp helps ∧ IsEnd ends ∧
          words = written items ++ helps ++ ends) ∧
          text = form.usage (" ".intercalate command)) ∧
      ((∃ message, read command words = .refused message) ↔
        (¬∃ items ends, SetOnce items ∧ IsEnd ends ∧ words = written items ++ ends) ∧
          ¬∃ items helps ends, SetOnce items ∧ AskForHelp helps ∧ IsEnd ends ∧
            words = written items ++ helps ++ ends) ∧
      ∀ items others ends, SetOnce items → items.Perm others → IsEnd ends →
        read command (written items ++ ends) = read command (written others ++ ends) := by
  refine ⟨read_eq_options_iff command words, read_eq_usage_iff command words, ⟨?_, ?_⟩, ?_⟩
  · rintro ⟨message, h⟩
    refine ⟨?_, ?_⟩
    · rintro ⟨items, ends, honce, hends, rfl⟩
      rw [read_of_fit command honce hends] at h
      cases h
    · rintro ⟨items, helps, ends, honce, hhelps, hends, rfl⟩
      rw [read_of_ask command honce hhelps hends] at h
      cases h
  · rintro ⟨hfit, hask⟩
    rcases outcome_cases command words with ⟨items, ends, honce, hends, hwords, -⟩ |
      ⟨items, helps, ends, honce, hhelps, hends, hwords, -⟩ | hrefused
    · exact absurd ⟨items, ends, honce, hends, hwords⟩ hfit
    · exact absurd ⟨items, helps, ends, honce, hhelps, hends, hwords⟩ hask
    · exact hrefused
  · intro items others ends honce hperm hends
    obtain ⟨honce', hsame⟩ := ofItems_perm honce hperm
    rw [read_of_fit command honce hends, read_of_fit command honce' hends, hsame]

example : read ["lsh"] ["--log", "--", "--plain", "--prompt", "help", "--"]
    = .options { prompt := "help", plain := true, log := "--" } := by decide

end Options
end LineShell
