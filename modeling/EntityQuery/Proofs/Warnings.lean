import EntityQuery.ClassModel.Example
import EntityQuery.Proofs.Sessions
import Mathlib.Data.List.Induction

/-!
# Unknown functions are reported once

A function name is unknown if it is not empty, not built into the dialect and not whitelisted. The
first time that a session meets an unknown name it reports it, by a warning that is kept until
somebody takes it, or that goes to the log at once. It never reports the name again, whoever has
taken the warning, and it reports nothing else (`Session.unknown_reported_once`).

The session remembers the names that it has reported. Two things are shown of this list. It is the
list of all unknown names used so far, each where it was first used (`Session.run_warned`). And the
account balances (`Session.Balances`): the warnings that were taken, followed by those still kept,
are one for each name of the list, or else those in the log are. Every request keeps the account in
balance, since no look-up tells a warning.

The names are listed in the order of their code points, which is that of their bytes.
-/

namespace EntityQuery

/-! ## The order of names -/

namespace Text

/-- The bytes of a text, in UTF-8. -/
def bytes (text : String) : List UInt8 := text.toUTF8.data.toList

theorem bytes_eq (text : String) : bytes text = text.toList.flatMap String.utf8EncodeChar := by
  have encoded : text.toUTF8 = text.toList.utf8Encode := String.utf8Encode_toList.symm
  unfold bytes
  rw [encoded, List.utf8Encode, List.toList_data_toByteArray]

/-- The bytes of a smaller character are smaller, whatever follows. Both are digits to the base 64,
under a mark in the first byte that grows with their number. -/
theorem utf8EncodeChar_lt {c d : Char} (before : c < d) (rest rest' : List UInt8) :
    String.utf8EncodeChar c ++ rest < String.utf8EncodeChar d ++ rest' := by
  have order : c.val.toNat < d.val.toNat := before
  have bound : d.val.toNat < 0x110000 := by
    have valid : d.val.toNat < 0xd800 ∨ 0xdfff < d.val.toNat ∧ d.val.toNat < 0x110000 := d.valid
    omega
  have twoDigits : ∀ n : Nat, n / 4096 = n / 64 / 64 := fun n => by omega
  have threeDigits : ∀ n : Nat, n / 262144 = n / 64 / 64 / 64 := fun n => by omega
  unfold String.utf8EncodeChar
  simp only [twoDigits, threeDigits]
  split_ifs
  all_goals
    simp (disch := omega) only [List.cons_append, List.nil_append, List.cons_lt_cons_iff,
      UInt8.lt_iff_toNat_lt, ← UInt8.toNat_inj, UInt8.toNat_ofNat', Nat.mod_eq_of_lt]
    omega

theorem flatMap_utf8EncodeChar_lt {cs ds : List Char} (before : cs < ds) :
    cs.flatMap String.utf8EncodeChar < ds.flatMap String.utf8EncodeChar := by
  induction before with
  | @nil d ds =>
    obtain ⟨first, rest, eq⟩ : ∃ first rest, String.utf8EncodeChar d = first :: rest := by
      refine List.exists_cons_of_length_pos ?_
      rw [String.length_utf8EncodeChar]
      exact d.utf8Size_pos
    rw [List.flatMap_nil, List.flatMap_cons, eq]
    exact List.nil_lt_cons _ _
  | rel smaller => exact utf8EncodeChar_lt smaller _ _
  | cons _ ih => exact List.append_left_lt ih

/-- **The order of texts is the order of their bytes.** -/
theorem bytes_lt {a b : String} (before : a < b) : bytes a < bytes b := by
  rw [bytes_eq, bytes_eq]
  exact flatMap_utf8EncodeChar_lt before

end Text

/-! ## Unknown names -/

namespace Function

/-- **The name is unknown**: it is not empty, the dialect does not have it, in lower case unless
case counts, and it is not whitelisted as it is spelled. -/
def Unknown (dialect : Dialect) (settings : Settings) (name : String) : Prop :=
  name ≠ "" ∧
    dialect.lookup (if settings.caseSensitive then name else Text.lowercase name) = none ∧
    name ∉ settings.whitelist

instance (dialect : Dialect) (settings : Settings) : DecidablePred (Unknown dialect settings) :=
  fun _ => inferInstanceAs (Decidable (_ ∧ _ ∧ _))

theorem Vocabulary.isUnknown_ofSettings (dialect : Dialect) (settings : Settings)
    (name : String) :
    (ofSettings dialect settings).isUnknown name = decide (Unknown dialect settings name) := by
  rw [Bool.eq_iff_iff, decide_eq_true_iff]
  unfold isUnknown Unknown
  simp only [Bool.and_eq_true, Bool.not_eq_true', Option.isNone_iff_eq_none, and_assoc,
    Bool.eq_false_iff, ne_eq, String.isEmpty_iff]
  exact and_congr_right' (and_congr_right' (not_congr List.contains_iff_mem))

/-- Where names are listed at their first occurrence, one more at the end adds itself if it is
new. -/
theorem eraseDups_concat (names : List String) (name : String) :
    (names ++ [name]).eraseDups = names.eraseDups ++ if name ∈ names then [] else [name] := by
  rw [List.eraseDups_append]
  by_cases old : name ∈ names <;> simp [List.removeAll, List.eraseDups_cons, old]

theorem nodup_eraseDups (names : List String) : names.eraseDups.Nodup := by
  induction names using List.reverseRecOn with
  | nil => exact List.nodup_nil
  | append_singleton names name ih =>
    rw [eraseDups_concat]
    split
    · rw [List.append_nil]
      exact ih
    · next new =>
      rw [← List.concat_eq_append]
      refine ih.concat ?_
      rw [List.mem_eraseDups]
      exact new

/-- What a name adds to the names reported: itself, if it is unknown and not among them. -/
def Vocabulary.fresh (v : Vocabulary) (warned : List String) (name : String) : List String :=
  if v.isUnknown name ∧ name ∉ warned then [name] else []

/-- Names added one after the other come to the unknown ones, each where it first occurs. -/
theorem Vocabulary.foldl_fresh (v : Vocabulary) (names : List String) :
    names.foldl (fun warned name => warned ++ v.fresh warned name) [] =
      (names.filter v.isUnknown).eraseDups := by
  induction names using List.reverseRecOn with
  | nil => rfl
  | append_singleton names name ih =>
    rw [List.foldl_append, ih, List.foldl_cons, List.foldl_nil, List.filter_append]
    unfold fresh
    by_cases unknown : v.isUnknown name
    · rw [List.filter_cons_of_pos unknown, List.filter_nil, eraseDups_concat]
      by_cases old : name ∈ names.filter v.isUnknown
      · rw [if_pos old, if_neg fun both => both.2 (List.mem_eraseDups.mpr old)]
      · rw [if_neg old, if_pos ⟨unknown, fun mem => old (List.mem_eraseDups.mp mem)⟩]
    · rw [List.filter_cons_of_neg unknown, List.filter_nil, List.append_nil,
        if_neg fun both => unknown both.1, List.append_nil]

end Function

/-! ## What is asked, and what is reported -/

/-- The function name that a request uses, if any. -/
def Request.function? : Request → Option String
  | .ask question => Session.usedFunction? question
  | _ => none

/-- The request closes the session. -/
def Request.closes : Request → Bool
  | .close => true
  | _ => false

namespace Session

variable {s : Session} {request : Request}

/-- The function names that some requests use, in order, up to where the session is closed. -/
def usedNames (requests : List Request) : List String :=
  (requests.takeWhile (!·.closes)).filterMap Request.function?

theorem usedNames_cons (request : Request) (requests : List Request) :
    usedNames (request :: requests) =
      if request.closes then [] else request.function?.toList ++ usedNames requests := by
  unfold usedNames
  rw [List.takeWhile_cons]
  cases request.closes with
  | true => rfl
  | false =>
    cases used : request.function? <;> simp [used]

theorem function?_of_closes (closes : request.closes) : request.function? = none := by
  cases request with
  | close => rfl
  | _ => cases closes

/-- The warnings that a request takes with it, as its answer says. -/
def takenBy : Request → Answer → List Diagnostic
  | .takeWarnings, .warnings (some kept) => kept
  | _, _ => []

/-- The warnings that some requests take with them, in order. -/
def taken (s : Session) : List Request → List Diagnostic
  | [] => []
  | request :: requests =>
    takenBy request (s.step request).answer ++ (s.step request).session.taken requests

/-- The warnings that some requests bring to the log, in order. -/
def logged (s : Session) : List Request → List Diagnostic
  | [] => []
  | request :: requests =>
    (s.step request).events.filterMap Event.warning? ++ (s.step request).session.logged requests

/-- **The account of warnings balances.** The names reported have got one warning each, in order,
and these have been taken or are still kept, or else they are in the log. -/
def Balances (s : Session) (taken logged : List Diagnostic) : Prop :=
  match s.sink with
  | .collecting =>
    taken ++ s.pending = s.notices.warned.map Function.Vocabulary.unknownWarning ∧ logged = []
  | .logging =>
    taken ++ s.pending = [] ∧ logged = s.notices.warned.map Function.Vocabulary.unknownWarning

/-! ## One request -/

/-- What comes of taking note of a name: nothing, or it is added to the names reported and the
warning goes to the sink. -/
theorem useFunction_cases (s : Session) (name : String) :
    (s.vocabulary.fresh s.notices.warned name = [] ∧ s.useFunction name = (s, [])) ∨
    (s.vocabulary.fresh s.notices.warned name = [name] ∧ s.useFunction name =
      match s.sink with
      | .collecting =>
        ({ s with
            notices := ⟨s.notices.warned ++ [name]⟩
            pending := s.pending ++ [Function.Vocabulary.unknownWarning name] }, [])
      | .logging =>
        ({ s with notices := ⟨s.notices.warned ++ [name]⟩ },
          [.warned (Function.Vocabulary.unknownWarning name)])) := by
  unfold useFunction Function.Notices.use Function.Vocabulary.fresh
  by_cases report : s.vocabulary.isUnknown name ∧ name ∉ s.notices.warned
  · rw [if_pos report, if_pos (by simpa using report)]
    exact .inr ⟨rfl, rfl⟩
  · rw [if_neg report, if_neg (by simpa using report)]
    exact .inl ⟨rfl, rfl⟩

theorem useFunction_warned (s : Session) (name : String) :
    (s.useFunction name).1.notices.warned =
      s.notices.warned ++ s.vocabulary.fresh s.notices.warned name := by
  rcases s.useFunction_cases name with ⟨fresh, used⟩ | ⟨fresh, used⟩
  · rw [used, fresh, List.append_nil]
  · rw [used, fresh]
    cases s.sink <;> rfl

/-- Taking note of a name changes neither the vocabulary nor the sink. -/
theorem useFunction_terms (s : Session) (name : String) :
    (s.useFunction name).1.vocabulary = s.vocabulary ∧ (s.useFunction name).1.sink = s.sink := by
  rcases s.useFunction_cases name with ⟨-, used⟩ | ⟨-, used⟩
  · rw [used]
    exact ⟨rfl, rfl⟩
  · rw [used]
    cases s.sink <;> exact ⟨rfl, rfl⟩

theorem Balances.useFunction {taken logged : List Diagnostic} (balances : s.Balances taken logged)
    (name : String) :
    (s.useFunction name).1.Balances taken
      (logged ++ (s.useFunction name).2.filterMap Event.warning?) := by
  rcases s.useFunction_cases name with ⟨-, used⟩ | ⟨-, used⟩
  · rw [used]
    simpa using balances
  · rw [used]
    unfold Balances at balances ⊢
    cases sink : s.sink with
    | collecting =>
      simp only [sink] at balances ⊢
      rw [← List.append_assoc, balances.1, balances.2]
      simp
    | logging =>
      simp only [sink] at balances ⊢
      rw [balances.2]
      simp [balances.1, Event.warning?]

theorem look_quiet {attempt : Attempt Refusal Answer}
    (made : attempt.run.MadeOf s.schema s.store) :
    (s.look attempt).events.filterMap Event.warning? = [] :=
  (orRefuse_madeOf made).quiet

theorem Balances.ask {taken logged : List Diagnostic} (balances : s.Balances taken logged)
    (question : Question) :
    (s.ask question).session.Balances taken
      (logged ++ (s.ask question).events.filterMap Event.warning?) := by
  unfold Session.ask
  split
  · simpa using balances
  · split
    · rw [look_quiet (s.answer_madeOf question s.store), List.append_nil]
      exact balances
    · next name _ =>
      dsimp only
      rw [List.filterMap_append, look_quiet ((s.useFunction name).1.answer_madeOf question _),
        List.append_nil]
      exact balances.useFunction name

/-- **Every request keeps the account in balance.** -/
theorem Balances.step {taken logged : List Diagnostic} (balances : s.Balances taken logged)
    (valid : s.store.Valid s.schema) (request : Request) :
    (s.step request).session.Balances (taken ++ takenBy request (s.step request).answer)
      (logged ++ (s.step request).events.filterMap Event.warning?) := by
  cases request with
  | entity name question =>
    dsimp only [Session.step, takenBy]
    rw [look_quiet (s.answerEntity_madeOf name question valid), List.append_nil, List.append_nil]
    exact balances
  | ask question =>
    dsimp only [Session.step, takenBy]
    rw [List.append_nil]
    exact balances.ask question
  | warnings =>
    dsimp only [Session.step, takenBy]
    rw [List.filterMap_nil, List.append_nil, List.append_nil]
    exact balances
  | close =>
    dsimp only [Session.step, takenBy]
    rw [List.filterMap_nil, List.append_nil, List.append_nil]
    exact balances
  | takeWarnings =>
    -- what was kept is now among what was taken
    unfold Balances at balances ⊢
    dsimp only [Session.step]
    rw [List.filterMap_nil, List.append_nil, List.append_nil]
    unfold kept?
    cases sink : s.sink with
    | collecting =>
      rw [sink] at balances
      exact balances
    | logging =>
      rw [sink] at balances
      refine ⟨?_, balances.2⟩
      rw [(List.append_eq_nil_iff.mp balances.1).1]
      rfl

/-- No request changes the vocabulary or the sink. -/
theorem step_terms (s : Session) (request : Request) :
    (s.step request).session.vocabulary = s.vocabulary ∧
      (s.step request).session.sink = s.sink := by
  cases request with
  | ask question =>
    show (s.ask question).session.vocabulary = s.vocabulary ∧ (s.ask question).session.sink = s.sink
    unfold ask
    split
    · exact ⟨rfl, rfl⟩
    · split
      · exact ⟨rfl, rfl⟩
      · exact s.useFunction_terms _
  | _ => exact ⟨rfl, rfl⟩

/-- An open session adds the name that a request uses to those reported, if it is new and
unknown. -/
theorem step_warned (isOpen : s.isOpen) (request : Request) :
    (s.step request).session.notices.warned = request.function?.toList.foldl
      (fun warned name => warned ++ s.vocabulary.fresh warned name) s.notices.warned := by
  cases request with
  | ask question =>
    show (s.ask question).session.notices.warned = (usedFunction? question).toList.foldl _ _
    unfold ask
    rw [isOpen]
    cases usedFunction? question with
    | none => rfl
    | some name => exact s.useFunction_warned name
  | _ => rfl

/-- A closed session reports nothing more. -/
theorem step_warned_of_closed (closed : ¬ s.isOpen) (request : Request) :
    (s.step request).session.notices.warned = s.notices.warned := by
  cases request with
  | ask question =>
    show (s.ask question).session.notices.warned = s.notices.warned
    unfold ask
    rw [Bool.eq_false_iff.mpr closed]
    rfl
  | _ => rfl

/-- A session stays open until it is closed. -/
theorem step_isOpen (valid : s.store.Valid s.schema) (request : Request) :
    (s.step request).session.isOpen = (s.isOpen && !request.closes) := by
  cases request with
  | entity name question =>
    have reaches := look_reaches (s.answerEntity_madeOf name question valid)
    show (s.look (s.answerEntity name question)).session.isOpen = (s.isOpen && true)
    rw [Bool.and_true]
    unfold isOpen
    rw [reaches.linkage]
  | ask question => exact (s.ask_isOpen question).trans (Bool.and_true _).symm
  | warnings => exact (Bool.and_true _).symm
  | takeWarnings => exact (Bool.and_true _).symm
  | close => exact (Bool.and_false _).symm

/-! ## Runs -/

theorem run_terms (s : Session) (requests : List Request) :
    (s.run requests).2.vocabulary = s.vocabulary ∧ (s.run requests).2.sink = s.sink := by
  induction requests generalizing s with
  | nil => exact ⟨rfl, rfl⟩
  | cons request requests ih =>
    obtain ⟨vocabulary, sink⟩ := ih (s.step request).session
    exact ⟨vocabulary.trans (s.step_terms request).1, sink.trans (s.step_terms request).2⟩

/-- **Every run keeps the account in balance.** -/
theorem Balances.run {taken logged : List Diagnostic} (balances : s.Balances taken logged)
    (valid : s.store.Valid s.schema) (requests : List Request) :
    (s.run requests).2.Balances (taken ++ s.taken requests) (logged ++ s.logged requests) := by
  induction requests generalizing s taken logged with
  | nil =>
    unfold Session.taken Session.logged
    rw [List.append_nil, List.append_nil]
    exact balances
  | cons request requests ih =>
    unfold Session.taken Session.logged
    rw [← List.append_assoc, ← List.append_assoc]
    exact ih (balances.step valid request) (next_valid valid request)

theorem run_warned_of_closed (closed : ¬ s.isOpen) (valid : s.store.Valid s.schema)
    (requests : List Request) : (s.run requests).2.notices.warned = s.notices.warned := by
  induction requests generalizing s with
  | nil => rfl
  | cons request requests ih =>
    have stays : ¬ (s.step request).session.isOpen := by
      rw [step_isOpen valid, Bool.eq_false_iff.mpr closed]
      simp
    rw [run_cons, ih stays (next_valid valid request), step_warned_of_closed closed]

/-- **The names reported are the unknown ones among those used**, added one after the other. -/
theorem run_warned (isOpen : s.isOpen) (valid : s.store.Valid s.schema)
    (requests : List Request) :
    (s.run requests).2.notices.warned = (usedNames requests).foldl
      (fun warned name => warned ++ s.vocabulary.fresh warned name) s.notices.warned := by
  induction requests generalizing s with
  | nil => rfl
  | cons request requests ih =>
    have valid' := next_valid valid request
    rw [usedNames_cons, run_cons]
    split
    · next closes =>
      have closed : ¬ (s.step request).session.isOpen := by
        rw [step_isOpen valid, closes]
        simp
      rw [run_warned_of_closed closed valid', step_warned isOpen, function?_of_closes closes]
      rfl
    · next stays =>
      have isOpen' : (s.step request).session.isOpen := by
        rw [step_isOpen valid, isOpen, Bool.eq_false_iff.mpr stays]
        rfl
      rw [ih isOpen' valid', step_warned isOpen, (s.step_terms request).1, List.foldl_append]

/-- What a function name is answered with is a matter of the vocabulary alone. -/
theorem answer_function {s' : Session} (same : s'.vocabulary = s.vocabulary) (isOpen : s.isOpen)
    (isOpen' : s'.isOpen) {question : Question} {name : String}
    (uses : usedFunction? question = some name) :
    (s.step (.ask question)).answer = (s'.step (.ask question)).answer := by
  have asked : ∀ {u : Session}, u.isOpen → (u.step (.ask question)).answer =
      ((u.useFunction name).1.look ((u.useFunction name).1.answer question)).answer := by
    intro u isOpen
    show (u.ask question).answer = _
    unfold ask
    rw [isOpen, uses]
    rfl
  have noted : (s.useFunction name).1.vocabulary = (s'.useFunction name).1.vocabulary := by
    rw [(s.useFunction_terms name).1, (s'.useFunction_terms name).1, same]
  rw [asked isOpen, asked isOpen']
  cases question with
  | function used => exact congrArg (fun v => Answer.function (v.resolve used)) noted
  | call used count span =>
    exact congrArg (fun v => Answer.diagnostics (v.checkCall used count span)) noted
  | _ => cases uses

/-- Different names that are reported are listed in the order of their bytes. -/
theorem sorted_bytes {notices : Function.Notices} (distinct : notices.warned.Nodup) :
    notices.sorted.Perm notices.warned ∧
      notices.sorted.Pairwise fun a b => Text.bytes a < Text.bytes b := by
  have perm : notices.sorted.Perm notices.warned := List.mergeSort_perm _ _
  have ordered : notices.sorted.Pairwise fun a b => decide (a ≤ b) = true := by
    refine List.pairwise_mergeSort ?_ ?_ _
    · intro a b c ab bc
      exact decide_eq_true (String.le_trans (of_decide_eq_true ab) (of_decide_eq_true bc))
    · intro a b
      simpa using String.le_total a b
  refine ⟨perm, (ordered.and (perm.symm.nodup distinct)).imp ?_⟩
  rintro a b ⟨le, ne⟩
  refine Text.bytes_lt ?_
  by_contra other
  exact ne (String.le_antisymm (of_decide_eq_true le) (String.not_lt.mp other))

/-- **Unknown functions are reported once.** Whatever is asked of a session, let the unknown names
be those that are used in questions about functions, before the session is closed, and are unknown,
each where it is first used. Where warnings are kept, those ever taken, followed by those still
kept, are one for each unknown name, in this order, and none goes to the log. Where warnings go to
the log, it gets one for each unknown name, in this order, and none is kept. All of them are
warnings that a function is unknown. As long as the session is open, it lists the unknown names in
the order of their bytes, and it answers every question about a function as a session does that has
been asked nothing yet. -/
theorem unknown_reported_once (sources : List Source) (settings : Settings)
    (dialect : Function.Dialect) (sink : Sink) (requests : List Request) :
    let s := start sources settings dialect sink
    let last := (s.run requests).2
    let unknown := ((usedNames requests).filter (Function.Unknown dialect settings ·)).eraseDups
    (sink = .collecting →
      s.taken requests ++ last.pending = unknown.map Function.Vocabulary.unknownWarning ∧
        s.logged requests = []) ∧
    (sink = .logging →
      s.taken requests ++ last.pending = [] ∧
        s.logged requests = unknown.map Function.Vocabulary.unknownWarning) ∧
    (∀ warning ∈ unknown.map Function.Vocabulary.unknownWarning,
      warning.severity = .warning ∧ warning.code = some "function::unknown") ∧
    (last.isOpen → ∃ names, last.warnedNames? = some names ∧ names.Perm unknown ∧
      names.Pairwise fun a b => Text.bytes a < Text.bytes b) ∧
    (last.isOpen → ∀ (question : Question) (name : String), usedFunction? question = some name →
      ∀ (others : List Source) (sink' : Sink), (last.step (.ask question)).answer =
        ((start others settings dialect sink').step (.ask question)).answer) := by
  intro s last unknown
  have fresh := start_valid sources settings dialect sink
  have started : ∀ (sources : List Source) (sink : Sink),
      (start sources settings dialect sink).isOpen := by
    intro sources sink
    unfold start isOpen
    cases settings.subclasses <;> rfl
  have warned : last.notices.warned = unknown := by
    have isUnknown : s.vocabulary.isUnknown = fun name =>
        decide (Function.Unknown dialect settings name) :=
      funext (Function.Vocabulary.isUnknown_ofSettings dialect settings)
    rw [run_warned (started sources sink) fresh requests]
    exact (s.vocabulary.foldl_fresh (usedNames requests)).trans (by rw [isUnknown])
  obtain ⟨vocabulary, same⟩ := s.run_terms requests
  have opening : s.Balances [] [] := by
    unfold Balances
    split <;> exact ⟨rfl, rfl⟩
  have balances := opening.run fresh requests
  unfold Balances at balances
  rw [same, List.nil_append, List.nil_append, warned] at balances
  refine ⟨?_, ?_, ?_, ?_, ?_⟩
  · rintro rfl
    exact balances
  · rintro rfl
    exact balances
  · intro warning mem
    obtain ⟨name, -, rfl⟩ := List.mem_map.mp mem
    exact ⟨rfl, rfl⟩
  · intro isOpen
    have distinct : last.notices.warned.Nodup := warned ▸ Function.nodup_eraseDups _
    obtain ⟨perm, ordered⟩ := sorted_bytes distinct
    refine ⟨last.notices.sorted, if_pos isOpen, ?_, ordered⟩
    rw [← warned]
    exact perm
  · intro isOpen question name uses others sink'
    have equal : (start others settings dialect sink').vocabulary = last.vocabulary :=
      vocabulary.symm
    exact answer_function equal isOpen (started others sink') uses

/-- A name is reported in each of its spellings, by whichever question uses it first, and not again
once the warning has been taken. Names that are whitelisted, built in or empty are not reported. -/
theorem soundex_reported_once :
    let settings : Settings := { whitelist := ["distance"] }
    let requests : List Request := [.ask (.function "soundex"), .entity "Person" .describe,
      .ask (.call "SOUNDEX" 2 ⟨0, 7⟩), .takeWarnings, .ask (.call "soundex" 1 ⟨0, 7⟩),
      .ask (.function "distance"), .ask (.call "ABS" 3 ⟨0, 3⟩), .ask (.function ""),
      .ask (.function "rand"), .ask (.segments "Person" ⟨0, 1⟩ [⟨"name", ⟨2, 6⟩⟩])]
    let s := start [.classes .company] settings .standard .collecting
    let last := (s.run requests).2
    let warning := Function.Vocabulary.unknownWarning
    s.taken requests ++ last.pending = ["soundex", "SOUNDEX", "rand"].map warning ∧
      s.logged requests = [] ∧ last.pending = [warning "rand"] ∧
      (∃ names, last.warnedNames? = some names ∧ names.Perm ["soundex", "SOUNDEX", "rand"] ∧
        names.Pairwise fun a b => Text.bytes a < Text.bytes b) ∧
      (last.step (.ask (.function "rand"))).answer =
        ((start [] settings .standard .logging).step (.ask (.function "rand"))).answer := by
  intro settings requests s last warning
  have unknown : ((usedNames requests).filter
      (Function.Unknown .standard settings ·)).eraseDups = ["soundex", "SOUNDEX", "rand"] := by
    decide +kernel
  have isOpen : last.isOpen := by decide +kernel
  obtain ⟨kept, -, -, names, answers⟩ :=
    unknown_reported_once [.classes .company] settings .standard .collecting requests
  rw [unknown] at kept names
  have pending : last.pending = [warning "rand"] := by decide +kernel
  have answer := answers isOpen (.function "rand") "rand" rfl [] .logging
  -- with the names in the way, the two sides would be compared by running the session
  unfold last s at pending ⊢
  exact ⟨(kept rfl).1, (kept rfl).2, pending, names isOpen, answer⟩

end Session

end EntityQuery
