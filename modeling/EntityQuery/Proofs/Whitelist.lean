import EntityQuery.ClassModel.Example
import EntityQuery.Proofs.Roles
import EntityQuery.Proofs.Warnings

/-!
# Whitelists

A whitelist option is a text that lists names, with commas and white space before, between and after
them. Which names it lists is said by a grammar (`Settings.Lists`), in which a name ends only at a
separator or at the end of the text. Every text lists some names, and the names that are read are
the only ones it lists (`Settings.words_eq_iff`); what else there is to say of reading follows.

The names so read are no different from other whitelisted names. A whitelisted name is not unknown,
and a session reports unknown names alone (`Session.unknown_of_warned`), so nothing that is ever
asked brings a warning about it (`Session.whitelist_respected`).
-/

namespace EntityQuery

/-! ## Texts that list names -/

namespace Settings

variable {c : Char} {cs gap rest : List Char} {name : String} {names : List String}

/-- A comma, or a character with the Unicode property `White_Space`. -/
def Separates (c : Char) : Prop :=
  c = ',' ∨ ∃ range ∈ Text.whiteSpace.ranges, range.1 ≤ c.toNat ∧ c.toNat ≤ range.2

theorem isSeparator_iff : isSeparator c = true ↔ Separates c := by
  unfold isSeparator Text.isBlank Separates
  rw [Bool.or_eq_true, beq_iff_eq, Text.CharClass.contains_iff]

instance : DecidablePred Separates := fun _ => decidable_of_iff _ isSeparator_iff

/-- A text that can be listed: it is not empty and no separator is in it. -/
structure Plain (name : String) : Prop where
  nonempty : name ≠ ""
  unbroken : ∀ c ∈ name.toList, ¬ Separates c

/-- A run of separators, which may be empty. -/
def Gap (cs : List Char) : Prop := ∀ c ∈ cs, Separates c

instance : DecidablePred Gap := fun cs => List.decidableBAll Separates cs

/-- **The text lists the names**: they stand in it in this order, with gaps around them, and a name
ends only where a separator follows or the text ends. -/
inductive Lists : List String → List Char → Prop
  | nil {gap : List Char} (run : Gap gap) : Lists [] gap
  | cons {gap rest : List Char} {name : String} {names : List String} (run : Gap gap)
      (plain : Plain name) (ends : ∀ c ∈ rest.head?, Separates c) (listed : Lists names rest) :
      Lists (name :: names) (gap ++ (name.toList ++ rest))

theorem Gap.ends (run : Gap gap) : ∀ c ∈ gap.head?, Separates c :=
  fun c first => run c (List.mem_of_mem_head? first)

theorem Lists.plain (listed : Lists names cs) : ∀ name ∈ names, Plain name := by
  induction listed with
  | nil _ => nofun
  | cons _ plain _ _ ih => exact List.forall_mem_cons.mpr ⟨plain, ih⟩

theorem Lists.separator_cons (separates : Separates c) (listed : Lists names cs) :
    Lists names (c :: cs) := by
  cases listed with
  | nil run => exact .nil (List.forall_mem_cons.mpr ⟨separates, run⟩)
  | cons run plain ends listed =>
    rw [← List.cons_append]
    exact .cons (List.forall_mem_cons.mpr ⟨separates, run⟩) plain ends listed

/-- Some characters without a separator are a name in front of a text that does not go on with
it. -/
theorem Lists.word_append {word : List Char} (nonempty : word ≠ [])
    (unbroken : ∀ c ∈ word, ¬ Separates c) (ends : ∀ c ∈ rest.head?, Separates c)
    (listed : Lists names rest) : Lists (String.ofList word :: names) (word ++ rest) := by
  have plain : Plain (String.ofList word) := ⟨by simpa using nonempty, by simpa using unbroken⟩
  have none : Gap [] := nofun
  simpa using Lists.cons none plain ends listed

/-- A character that is no separator is a name of its own, or the first letter of the name that
follows. -/
theorem Lists.letter_cons (letter : ¬ Separates c) (listed : Lists names cs) :
    ∃ names', Lists names' (c :: cs) := by
  have alone : ∀ x ∈ [c], ¬ Separates x := List.forall_mem_singleton.mpr letter
  cases listed with
  | nil run => exact ⟨_, .word_append (List.cons_ne_nil c []) alone run.ends (.nil run)⟩
  | @cons gap rest name names run first ends listed =>
    cases gap with
    | nil =>
      have longer : ∀ x ∈ c :: name.toList, ¬ Separates x :=
        List.forall_mem_cons.mpr ⟨letter, first.unbroken⟩
      exact ⟨_, .word_append (List.cons_ne_nil c name.toList) longer ends listed⟩
    | cons d gap =>
      have parted : ∀ x ∈ (d :: gap ++ (name.toList ++ rest)).head?, Separates x :=
        run.ends
      exact ⟨_, .word_append (List.cons_ne_nil c []) alone parted (.cons run first ends listed)⟩

/-- **Every text lists some names.** -/
theorem exists_lists (cs : List Char) : ∃ names, Lists names cs := by
  induction cs with
  | nil => exact ⟨[], .nil nofun⟩
  | cons c cs ih =>
    obtain ⟨names, listed⟩ := ih
    by_cases separates : Separates c
    · exact ⟨names, listed.separator_cons separates⟩
    · exact listed.letter_cons separates

/-! ## The names that are read -/

/-- What is left of some characters between separators. -/
def words (cs : List Char) : List String :=
  ((cs.splitOnP isSeparator).filter (!·.isEmpty)).map String.ofList

theorem words_separator (separates : Separates c) (left right : List Char) :
    words (left ++ c :: right) = words left ++ words right := by
  unfold words
  rw [List.splitOnP_append_cons _ _ (isSeparator_iff.mpr separates), List.filter_append,
    List.map_append]

theorem words_gap_append (run : Gap gap) (cs : List Char) : words (gap ++ cs) = words cs := by
  induction gap with
  | nil => rfl
  | cons c gap ih =>
    obtain ⟨separates, run⟩ := List.forall_mem_cons.mp run
    calc words (c :: gap ++ cs) = words [] ++ words (gap ++ cs) := words_separator separates [] _
      _ = words cs := ih run

theorem words_of_plain (plain : Plain name) : words name.toList = [name] := by
  have whole : name.toList.splitOnP isSeparator = [name.toList] := by
    refine List.splitOnP_eq_singleton ?_
    intro c mem
    rw [Bool.eq_false_iff, ne_eq, isSeparator_iff]
    exact plain.unbroken c mem
  have nonempty : name.toList.isEmpty = false := by
    rw [List.isEmpty_eq_false_iff]
    exact fun empty => plain.nonempty (String.toList_eq_nil_iff.mp empty)
  unfold words
  rw [whole, List.filter_cons_of_pos (by rw [nonempty]; rfl)]
  exact congrArg (· :: []) String.ofList_toList

theorem words_name_append (plain : Plain name) (ends : ∀ c ∈ rest.head?, Separates c) :
    words (name.toList ++ rest) = name :: words rest := by
  cases rest with
  | nil =>
    rw [List.append_nil]
    exact words_of_plain plain
  | cons c rest =>
    have separates : Separates c := ends c rfl
    have run : Gap [c] := List.forall_mem_singleton.mpr separates
    have skipped : words (c :: rest) = words rest := words_gap_append run rest
    rw [words_separator separates, words_of_plain plain, skipped]
    rfl

theorem Lists.words_eq (listed : Lists names cs) : words cs = names := by
  induction listed with
  | @nil gap run => simpa [words] using words_gap_append run []
  | cons run plain ends _ ih => rw [words_gap_append run, words_name_append plain ends, ih]

/-- **The names that are read are the names that the text lists.** -/
theorem words_eq_iff : words cs = names ↔ Lists names cs := by
  refine ⟨?_, Lists.words_eq⟩
  rintro rfl
  obtain ⟨names, listed⟩ := exists_lists cs
  rw [listed.words_eq]
  exact listed

/-- Names in one text, each but the first with what stands in front of it. -/
def joined (first : String) : List (String × String) → String
  | [] => first
  | (gap, name) :: others => first ++ gap ++ joined name others

theorem words_joined {first : String} {others : List (String × String)} (plain : Plain first)
    (parted : ∀ other ∈ others, Gap other.1.toList ∧ other.1 ≠ "" ∧ Plain other.2) :
    words (joined first others).toList = first :: others.map (·.2) := by
  induction others generalizing first with
  | nil => exact words_of_plain plain
  | cons other others ih =>
    obtain ⟨gap, name⟩ := other
    obtain ⟨⟨run, nonempty, next⟩, parted⟩ := List.forall_mem_cons.mp parted
    have ends : ∀ c ∈ (gap.toList ++ (joined name others).toList).head?, Separates c := by
      rw [List.head?_append_of_ne_nil _ (mt String.toList_eq_nil_iff.mp nonempty)]
      exact run.ends
    rw [joined, String.toList_append, String.toList_append, List.append_assoc,
      words_name_append plain ends, words_gap_append run, ih next parted]
    rfl

/-- **Reading takes a text apart at its separators, and nowhere else.** -/
structure Tokenizes (read : String → List String) : Prop where
  splits : ∀ (left right : String) (c : Char), Separates c →
    read (left ++ String.singleton c ++ right) = read left ++ read right
  plain : ∀ text, ∀ name ∈ read text, Plain name
  alone : ∀ name, Plain name → read name = [name]
  joins : ∀ (first : String) (others : List (String × String)), Plain first →
    (∀ other ∈ others, Gap other.1.toList ∧ other.1 ≠ "" ∧ Plain other.2) →
      read (joined first others) = first :: others.map (·.2)
  grammar : ∀ (text : String) (names : List String), read text = names ↔ Lists names text.toList

theorem tokenizes_parseWhitelist : Tokenizes parseWhitelist where
  splits left right c separates := by
    have text : (left ++ String.singleton c ++ right).toList =
        left.toList ++ c :: right.toList := by simp
    show words (left ++ String.singleton c ++ right).toList = _
    rw [text]
    exact words_separator separates left.toList right.toList
  plain _ := (words_eq_iff.mp rfl).plain
  alone _ := words_of_plain
  joins _ _ := words_joined
  grammar _ _ := words_eq_iff

theorem isWhitelisted_eq (settings : Settings) (name : String) :
    settings.isWhitelisted name = decide (name ∈ settings.whitelist) := by
  rw [Bool.eq_iff_iff, decide_eq_true_iff]
  exact List.contains_iff_mem

end Settings

/-! ## Whitelisted names are not reported -/

namespace Function.Vocabulary

theorem isWhitelisted_ofSettings (dialect : Dialect) (settings : Settings) (name : String) :
    (ofSettings dialect settings).isWhitelisted name = settings.isWhitelisted name := rfl

theorem unknownWarning_inj {a b : String} (same : unknownWarning a = unknownWarning b) : a = b := by
  have message := congrArg Diagnostic.message same
  simpa [unknownWarning] using message

end Function.Vocabulary

namespace Session

variable {s : Session} {name : String}

theorem step_settings (s : Session) (request : Request) :
    (s.step request).session.settings = s.settings := by
  cases request with
  | ask question =>
    show (s.ask question).session.settings = s.settings
    unfold ask
    split
    · rfl
    · split
      · rfl
      · next name _ =>
        show (s.useFunction name).1.settings = s.settings
        rcases s.useFunction_cases name with ⟨-, used⟩ | ⟨-, used⟩
        · rw [used]
        · rw [used]
          cases s.sink <;> rfl
  | _ => rfl

theorem run_settings (s : Session) (requests : List Request) :
    (s.run requests).2.settings = s.settings := by
  induction requests generalizing s with
  | nil => rfl
  | cons request requests ih => exact (ih _).trans (s.step_settings request)

theorem answer_isWhitelisted (isOpen : s.isOpen) (name : String) :
    (s.step (.ask (.isWhitelisted name))).answer =
      .whitelisted (s.vocabulary.isWhitelisted name) (s.settings.isWhitelisted name) := by
  rw [step_ask isOpen rfl]
  rfl

/-- Where the account balances, a warning is about a name that was reported. -/
theorem Balances.warned {taken logged : List Diagnostic} (balances : s.Balances taken logged)
    (mem : Function.Vocabulary.unknownWarning name ∈ taken ++ s.pending ∨
      Function.Vocabulary.unknownWarning name ∈ logged) : name ∈ s.notices.warned := by
  have issued : Function.Vocabulary.unknownWarning name ∈
      s.notices.warned.map Function.Vocabulary.unknownWarning := by
    unfold Balances at balances
    cases sink : s.sink <;> simp only [sink] at balances <;> obtain ⟨first, second⟩ := balances
    · rw [first, second] at mem
      exact mem.resolve_right List.not_mem_nil
    · rw [first, second] at mem
      exact mem.resolve_left List.not_mem_nil
  obtain ⟨other, warned, same⟩ := List.mem_map.mp issued
  rw [← Function.Vocabulary.unknownWarning_inj same]
  exact warned

/-- **Only unknown names are reported**, whatever is asked. -/
theorem unknown_of_warned {sources : List Source} {settings : Settings}
    {dialect : Function.Dialect} {sink : Sink} {requests : List Request}
    (mem : name ∈ ((start sources settings dialect sink).run requests).2.notices.warned) :
    Function.Unknown dialect settings name := by
  have isOpen : (start sources settings dialect sink).isOpen := by
    unfold start isOpen
    cases settings.subclasses <;> rfl
  have reported :=
    (run_warned isOpen (start_valid sources settings dialect sink) requests).trans
      (Function.Vocabulary.foldl_fresh (.ofSettings dialect settings) (usedNames requests))
  rw [reported, List.mem_eraseDups, List.mem_filter,
    Function.Vocabulary.isUnknown_ofSettings] at mem
  exact of_decide_eq_true mem.2

/-- A session that is asked about a whitelisted function has nothing to report, now or later. -/
theorem step_of_whitelisted (whitelisted : s.vocabulary.isWhitelisted name) {question : Question}
    (uses : usedFunction? question = some name) :
    (s.step (.ask question)).session = s ∧ (s.step (.ask question)).events = [] := by
  have used : s.useFunction name = (s, []) := by
    rcases s.useFunction_cases name with ⟨-, used⟩ | ⟨fresh, -⟩
    · exact used
    · unfold Function.Vocabulary.fresh Function.Vocabulary.isUnknown at fresh
      simp [whitelisted] at fresh
  show (s.ask question).session = s ∧ (s.ask question).events = []
  unfold ask
  split
  · exact ⟨rfl, rfl⟩
  · rw [uses]
    dsimp only
    rw [used]
    cases question with
    | function _ => exact ⟨rfl, rfl⟩
    | call _ _ _ => exact ⟨rfl, rfl⟩
    | _ => cases uses

/-- **Whitelists are read exactly and respected.** Reading a whitelist option takes it apart at
commas and white space: what is left and right of a separator is read on its own, all that is read
are names, a name alone is read as itself, names with gaps between them are read as these names, and
in general a text is read as the names that it lists. For all settings, the vocabulary and the
settings agree on which names are whitelisted, and these are the names in the list; every open
session answers so. If the names that an option lists are whitelisted, then none of them is ever
reported: whatever has been asked, no warning about it was taken, is kept or went to the log, and a
question that uses it next changes nothing and tells nothing. -/
theorem whitelist_respected :
    Settings.Tokenizes Settings.parseWhitelist ∧
    (∀ (dialect : Function.Dialect) (settings : Settings) (name : String),
      (Function.Vocabulary.ofSettings dialect settings).isWhitelisted name =
        settings.isWhitelisted name ∧
      (settings.isWhitelisted name ↔ name ∈ settings.whitelist)) ∧
    (∀ (sources : List Source) (settings : Settings) (dialect : Function.Dialect) (sink : Sink)
        (requests : List Request),
      let s := start sources settings dialect sink
      let last := (s.run requests).2
      (last.isOpen → ∀ name, (last.step (.ask (.isWhitelisted name))).answer =
        .whitelisted (decide (name ∈ settings.whitelist)) (decide (name ∈ settings.whitelist))) ∧
      ∀ option, (∀ name ∈ Settings.parseWhitelist option, name ∈ settings.whitelist) →
        ∀ name ∈ Settings.parseWhitelist option,
          name ∉ last.notices.warned ∧
          Function.Vocabulary.unknownWarning name ∉ s.taken requests ++ last.pending ∧
          Function.Vocabulary.unknownWarning name ∉ s.logged requests ∧
          ∀ question, usedFunction? question = some name →
            (last.step (.ask question)).session = last ∧
              (last.step (.ask question)).events = []) := by
  refine ⟨Settings.tokenizes_parseWhitelist, ?_, ?_⟩
  · intro dialect settings name
    refine ⟨Function.Vocabulary.isWhitelisted_ofSettings dialect settings name, ?_⟩
    rw [settings.isWhitelisted_eq, decide_eq_true_iff]
  · intro sources settings dialect sink requests s last
    have vocabulary : last.vocabulary = .ofSettings dialect settings := (s.run_terms requests).1
    have same : last.settings = settings := s.run_settings requests
    refine ⟨?_, ?_⟩
    · intro isOpen name
      rw [answer_isWhitelisted isOpen, vocabulary, same,
        Function.Vocabulary.isWhitelisted_ofSettings, settings.isWhitelisted_eq]
    · intro option listed name mem
      have whitelisted := listed name mem
      have silent : name ∉ last.notices.warned := fun warned =>
        (unknown_of_warned warned).2.2 whitelisted
      have opening : s.Balances [] [] := by
        unfold Balances
        split <;> exact ⟨rfl, rfl⟩
      have balances := opening.run (start_valid sources settings dialect sink) requests
      refine ⟨silent, fun kept => silent (balances.warned (.inl kept)),
        fun logged => silent (balances.warned (.inr logged)), ?_⟩
      intro question uses
      refine step_of_whitelisted ?_ uses
      rw [vocabulary, Function.Vocabulary.isWhitelisted_ofSettings, settings.isWhitelisted_eq]
      exact decide_eq_true whitelisted

/-- An option with gaps of all kinds: its names are not reported, while a name in another spelling
and one that is not whitelisted are. -/
theorem soundex_in_silence :
    let option := " soundex,levenshtein \u3000json_extract,,"
    let names := ["soundex", "levenshtein", "json_extract"]
    let settings : Settings := { whitelist := "rand" :: Settings.parseWhitelist option }
    let requests : List Request := [.ask (.function "soundex"), .ask (.function "SOUNDEX"),
      .ask (.call "json_extract" 2 ⟨0, 12⟩), .takeWarnings, .ask (.function "distance"),
      .ask (.function "soundex")]
    let s := start [.classes .company] settings .standard .collecting
    let last := (s.run requests).2
    let warning := Function.Vocabulary.unknownWarning
    Settings.Separates '\u3000' ∧
      Settings.parseWhitelist (" soundex," ++ String.singleton '\u3000' ++ "json_extract,,") =
        Settings.parseWhitelist " soundex," ++ Settings.parseWhitelist "json_extract,," ∧
      Settings.Plain "soundex" ∧ Settings.parseWhitelist "soundex" = ["soundex"] ∧
      Settings.parseWhitelist
        (Settings.joined "soundex" [(",", "levenshtein"), (" \u3000", "json_extract")]) = names ∧
      Settings.Lists names option.toList ∧
      (∀ name ∈ Settings.parseWhitelist option, name ∈ settings.whitelist) ∧ last.isOpen ∧
      (last.step (.ask (.isWhitelisted "soundex"))).answer = .whitelisted true true ∧
      (last.step (.ask (.isWhitelisted "SOUNDEX"))).answer = .whitelisted false false ∧
      last.notices.warned = ["SOUNDEX", "distance"] ∧
      warning "soundex" ∉ s.taken requests ++ last.pending ∧
      warning "soundex" ∉ s.logged requests ∧
      (last.step (.ask (.call "soundex" 1 ⟨0, 7⟩))).session = last ∧
      (last.step (.ask (.call "soundex" 1 ⟨0, 7⟩))).events = [] := by
  intro option names settings requests s last warning
  obtain ⟨tokenizes, -, sessions⟩ := whitelist_respected
  obtain ⟨answers, silence⟩ :=
    sessions [.classes .company] settings .standard .collecting requests
  have isOpen : last.isOpen := by decide +kernel
  have read : Settings.parseWhitelist option = names := by decide +kernel
  have listed : ∀ name ∈ Settings.parseWhitelist option, name ∈ settings.whitelist :=
    fun _ mem => List.mem_cons_of_mem _ mem
  have plain : ∀ name ∈ names, Settings.Plain name := read ▸ tokenizes.plain option
  obtain ⟨soundex, levenshtein, extract⟩ : Settings.Plain "soundex" ∧
      Settings.Plain "levenshtein" ∧ Settings.Plain "json_extract" := by
    simpa [names] using plain
  have parted : ∀ other ∈ [(",", "levenshtein"), (" \u3000", "json_extract")],
      Settings.Gap other.1.toList ∧ other.1 ≠ "" ∧ Settings.Plain other.2 := by
    refine List.forall_mem_cons.mpr ⟨⟨by decide +kernel, by decide, levenshtein⟩, ?_⟩
    exact List.forall_mem_singleton.mpr ⟨by decide +kernel, by decide, extract⟩
  have mem : "soundex" ∈ Settings.parseWhitelist option := read ▸ List.mem_cons_self
  obtain ⟨-, kept, logged, next⟩ := silence option listed "soundex" mem
  have warned : last.notices.warned = ["SOUNDEX", "distance"] := by decide +kernel
  have separates : Settings.Separates '\u3000' := by decide +kernel
  have yes := answers isOpen "soundex"
  have no := answers isOpen "SOUNDEX"
  rw [decide_eq_true (listed "soundex" mem)] at yes
  rw [decide_eq_false (by decide +kernel)] at no
  obtain ⟨session, events⟩ := next (.call "soundex" 1 ⟨0, 7⟩) rfl
  -- with the names in the way, the two sides would be compared by running the session
  unfold last s at isOpen warned ⊢
  exact ⟨separates, tokenizes.splits _ _ _ separates, soundex, tokenizes.alone _ soundex,
    tokenizes.joins _ _ soundex parted, (tokenizes.grammar _ _).mp read, listed, isOpen, yes, no,
    warned, kept, logged, session, events⟩

end Session

end EntityQuery
