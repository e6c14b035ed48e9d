import EntityQuery.Proofs.Warnings
import Mathlib.Algebra.GroupWithZero.Nat

/-!
# Numbers of arguments are checked exactly

A call fits a signature if its arguments can be dealt out to the parameters: exactly one to each
that is required, at most one to each that is optional, any number to each that is variadic. That is
what `Distributes` says, for parameters in any number and any order.

The check does not deal anything out. It counts the required parameters, looks for a variadic one,
and compares. That this comes to the same (`distributes_iff`) is shown along the list of parameters:
what a parameter takes out of the number of arguments has to leave a number for the others that lies
within their bounds, and such a share can always be chosen.

From this, a call is found faulty exactly if its name is one of the dialect and its arguments cannot
be dealt out, and then there is one error, at the place of the call (`Session.arity_exact`).
-/

namespace EntityQuery.Function

/-! ## Dealing out arguments -/

/-- How many arguments a parameter can be given. -/
def Mode.Takes : Mode → (share : Nat) → Prop
  | .required, share => share = 1
  | .optional, share => share ≤ 1
  | .variadic, _ => True

/-- **The arguments can be dealt out to the parameters**: each parameter gets a share that it takes,
and the shares make up all the arguments. -/
def Distributes (parameters : List Parameter) (count : Nat) : Prop :=
  ∃ shares : List Nat, List.Forall₂ (fun p share => p.mode.Takes share) parameters shares ∧
    shares.sum = count

variable {p : Parameter} {parameters : List Parameter} {count : Nat}

theorem distributes_nil : Distributes [] count ↔ count = 0 := by
  constructor
  · rintro ⟨shares, taken, rfl⟩
    cases taken
    rfl
  · rintro rfl
    exact ⟨[], .nil, rfl⟩

/-- The first parameter gets its share, and the others get what is left. -/
theorem distributes_cons : Distributes (p :: parameters) count ↔
    ∃ share rest, p.mode.Takes share ∧ Distributes parameters rest ∧ share + rest = count := by
  constructor
  · rintro ⟨shares, taken, rfl⟩
    cases taken with
    | @cons _ share _ shares takes others =>
      exact ⟨share, shares.sum, takes, ⟨shares, others, rfl⟩, List.sum_cons.symm⟩
  · rintro ⟨share, rest, takes, ⟨shares, others, rfl⟩, rfl⟩
    exact ⟨share :: shares, .cons takes others, List.sum_cons⟩

/-- The number of arguments lies within the bounds that the parameters set. -/
def WithinBounds (parameters : List Parameter) (count : Nat) : Prop :=
  parameters.countP (·.mode = .required) ≤ count ∧
    (parameters.any (·.mode = .variadic) ∨ count ≤ parameters.length)

/-- What the first parameter does to the bounds, by its mode. -/
theorem withinBounds_cons : WithinBounds (p :: parameters) count ↔
    match p.mode with
    | .required => parameters.countP (·.mode = .required) + 1 ≤ count ∧
      (parameters.any (·.mode = .variadic) ∨ count ≤ parameters.length + 1)
    | .optional => parameters.countP (·.mode = .required) ≤ count ∧
      (parameters.any (·.mode = .variadic) ∨ count ≤ parameters.length + 1)
    | .variadic => parameters.countP (·.mode = .required) ≤ count := by
  unfold WithinBounds
  cases mode : p.mode <;> simp [mode]

/-- **Arguments can be dealt out exactly if their number is within the bounds.** -/
theorem distributes_iff (parameters : List Parameter) (count : Nat) :
    Distributes parameters count ↔ WithinBounds parameters count := by
  induction parameters generalizing count with
  | nil =>
    rw [distributes_nil]
    simp [WithinBounds]
  | cons p parameters ih =>
    have room : parameters.countP (·.mode = .required) ≤ parameters.length :=
      List.countP_le_length
    rw [distributes_cons, withinBounds_cons]
    simp only [ih, WithinBounds]
    cases p.mode with
    | required =>
      constructor
      · rintro ⟨share, rest, rfl, ⟨enough, most⟩, rfl⟩
        exact ⟨by omega, most.imp_right fun le => by omega⟩
      · rintro ⟨enough, most⟩
        exact ⟨1, count - 1, rfl, ⟨by omega, most.imp_right fun le => by omega⟩, by omega⟩
    | optional =>
      constructor
      · rintro ⟨share, rest, takes, ⟨enough, most⟩, rfl⟩
        have takes : share ≤ 1 := takes
        exact ⟨by omega, most.imp_right fun le => by omega⟩
      · rintro ⟨enough, most⟩
        -- the optional parameter goes without if the required ones need all that there is
        by_cases all : parameters.countP (·.mode = .required) = count
        · exact ⟨0, count, Nat.zero_le 1, ⟨enough, .inr (by omega)⟩, by omega⟩
        · exact ⟨1, count - 1, Nat.le_refl 1, ⟨by omega, most.imp_right fun le => by omega⟩,
            by omega⟩
    | variadic =>
      constructor
      · rintro ⟨share, rest, -, ⟨enough, -⟩, rfl⟩
        exact Nat.le_trans enough (Nat.le_add_left rest share)
      · intro enough
        -- the required parameters get one each, and this one all the others
        exact ⟨count - parameters.countP (·.mode = .required), _, trivial,
          ⟨Nat.le_refl _, .inr room⟩, Nat.sub_add_cancel enough⟩

/-- A signature accepts the numbers of arguments that are within its bounds. -/
theorem Signature.accepts_iff (s : Signature) (count : Nat) :
    s.accepts count ↔ WithinBounds s.parameters count := by
  unfold accepts minArity maxArity? WithinBounds
  by_cases variadic : s.parameters.any (·.mode = .variadic)
  · rw [if_pos variadic]
    simp [variadic]
  · rw [if_neg variadic]
    simp [variadic]

/-! ## Calls -/

namespace Vocabulary

variable {v : Vocabulary} {name : String} {signature : Signature}

/-- **The call does not fit**: its name is not empty and is, in the mode that is set for upper and
lower case, that of a built-in function, to whose parameters the arguments cannot be dealt out. -/
def Misfit (v : Vocabulary) (name : String) (count : Nat) : Prop :=
  name ≠ "" ∧ ∃ signature,
    v.dialect.lookup (if v.caseSensitive then name else Text.lowercase name) = some signature ∧
      ¬ Distributes signature.parameters count

theorem checkCall_of_builtin (named : name ≠ "") (known : v.builtin? name = some signature)
    (count : Nat) (span : Span) : v.checkCall name count span =
      if signature.accepts count then [] else [arityError name signature count span] := by
  unfold checkCall resolve
  rw [if_neg (by simpa using named), known]

theorem checkCall_of_not_builtin (unknown : name = "" ∨ v.builtin? name = none) (count : Nat)
    (span : Span) : v.checkCall name count span = [] := by
  unfold checkCall resolve
  rcases unknown with rfl | unknown
  · rfl
  · rw [unknown]
    cases name.isEmpty <;> rfl

/-- **What comes of checking a call**: one error if it does not fit, and otherwise none. -/
theorem checkCall_cases (v : Vocabulary) (name : String) (count : Nat) (span : Span) :
    (v.Misfit name count ∧
      ∃ signature, v.checkCall name count span = [arityError name signature count span]) ∨
    (¬ v.Misfit name count ∧ v.checkCall name count span = []) := by
  by_cases empty : name = ""
  · exact .inr ⟨fun misfit => misfit.1 empty, checkCall_of_not_builtin (.inl empty) count span⟩
  cases known : v.builtin? name with
  | none =>
    refine .inr ⟨?_, checkCall_of_not_builtin (.inr known) count span⟩
    rintro ⟨-, signature, found, -⟩
    cases known.symm.trans found
  | some signature =>
    rw [checkCall_of_builtin empty known]
    by_cases fits : signature.accepts count
    · rw [if_pos fits]
      refine .inr ⟨?_, rfl⟩
      rintro ⟨-, other, found, misfit⟩
      cases known.symm.trans found
      exact misfit ((distributes_iff _ _).mpr ((signature.accepts_iff count).mp fits))
    · rw [if_neg fits]
      refine .inl ⟨⟨empty, signature, known, ?_⟩, signature, rfl⟩
      intro dealt
      exact fits ((signature.accepts_iff count).mpr ((distributes_iff _ _).mp dealt))

end Vocabulary

end EntityQuery.Function

namespace EntityQuery.Session

variable {s : Session}

/-- An open session checks a call by its vocabulary, whatever it has reported before. -/
theorem answer_call (isOpen : s.isOpen) (name : String) (count : Nat) (span : Span) :
    (s.step (.ask (.call name count span))).answer =
      .diagnostics (s.vocabulary.checkCall name count span) := by
  show (s.ask (.call name count span)).answer = _
  unfold ask
  rw [isOpen]
  exact congrArg (fun v => Answer.diagnostics (v.checkCall name count span))
    (s.useFunction_terms name).1

/-- **Numbers of arguments are checked exactly.** A signature, whatever parameters it has and in
whatever order, accepts a number of arguments exactly if they can be dealt out to its parameters,
one to each that is required, at most one to each that is optional, any number to each that is
variadic. Checking a call gives exactly one error, with the code for this and one label, primary and
at the span of the call, exactly if the name is not empty, is that of a built-in function, and the
arguments cannot be dealt out to its parameters; and otherwise it gives nothing. This is what an
open session answers, in every state. -/
theorem arity_exact :
    (∀ (signature : Function.Signature) (count : Nat),
      signature.accepts count ↔ Function.Distributes signature.parameters count) ∧
    (∀ (v : Function.Vocabulary) (name : String) (count : Nat) (span : Span),
      ((∃ d, v.checkCall name count span = [d] ∧ d.severity = .error ∧
        d.code = some "function::arity" ∧ ∃ message, d.labels = [.primary span message]) ↔
          v.Misfit name count) ∧
      (¬ v.Misfit name count → v.checkCall name count span = [])) ∧
    (∀ (sources : List Source) (settings : Settings) (dialect : Function.Dialect) (sink : Sink)
        (requests : List Request),
      let s := ((start sources settings dialect sink).run requests).2
      s.isOpen → ∀ (name : String) (count : Nat) (span : Span),
        (s.step (.ask (.call name count span))).answer = .diagnostics
          ((Function.Vocabulary.ofSettings dialect settings).checkCall name count span)) := by
  refine ⟨?_, ?_, ?_⟩
  · intro signature count
    rw [signature.accepts_iff, Function.distributes_iff]
  · intro v name count span
    rcases v.checkCall_cases name count span with ⟨misfit, signature, checked⟩ | ⟨fits, checked⟩
    · refine ⟨⟨fun _ => misfit, fun _ => ⟨_, checked, rfl, rfl, _, rfl⟩⟩, ?_⟩
      intro fits
      exact absurd misfit fits
    · refine ⟨⟨?_, fun misfit => absurd misfit fits⟩, fun _ => checked⟩
      rintro ⟨d, found, -⟩
      cases checked.symm.trans found
  · intro sources settings dialect sink requests s isOpen name count span
    obtain ⟨vocabulary, -⟩ := (start sources settings dialect sink).run_terms requests
    rw [answer_call isOpen, vocabulary]
    rfl

/-- A substring takes a text, where it starts, and perhaps a length. One argument is too few, in
whatever case the name is written; three can be dealt out. -/
theorem substring_needs_two :
    let s := ((start [] {} .standard .collecting).run [.ask (.call "SUBSTRING" 2 ⟨0, 9⟩)]).2
    let v := Function.Vocabulary.ofSettings .standard {}
    s.isOpen ∧ v.Misfit "SUBSTRING" 1 ∧ ¬ v.Misfit "SUBSTRING" 3 ∧
      (∃ d, (s.step (.ask (.call "SUBSTRING" 1 ⟨7, 16⟩))).answer = .diagnostics [d] ∧
        d.severity = .error ∧ d.code = some "function::arity" ∧
        ∃ message, d.labels = [.primary ⟨7, 16⟩ message]) ∧
      (s.step (.ask (.call "SUBSTRING" 3 ⟨7, 16⟩))).answer = .diagnostics [] := by
  intro s v
  have isOpen : s.isOpen := by decide +kernel
  obtain ⟨accepts, checks, answers⟩ := arity_exact
  obtain ⟨signature, found⟩ : ∃ signature, v.dialect.lookup
      (if v.caseSensitive then "SUBSTRING" else Text.lowercase "SUBSTRING") = some signature :=
    Option.isSome_iff_exists.mp (by decide +kernel)
  have bounds : (v.dialect.lookup
      (if v.caseSensitive then "SUBSTRING" else Text.lowercase "SUBSTRING")).map
        (fun signature => (signature.accepts 1, signature.accepts 3)) = some (false, true) := by
    decide +kernel
  rw [found] at bounds
  obtain ⟨one, three⟩ := Prod.mk.inj (Option.some.inj bounds)
  have tooFew : v.Misfit "SUBSTRING" 1 := by
    refine ⟨by decide, signature, found, ?_⟩
    rw [← accepts, one]
    exact Bool.false_ne_true
  have enough : ¬ v.Misfit "SUBSTRING" 3 := by
    rintro ⟨-, other, found', misfit⟩
    cases found.symm.trans found'
    exact misfit ((accepts signature 3).mp three)
  have answer := answers [] {} .standard .collecting [.ask (.call "SUBSTRING" 2 ⟨0, 9⟩)] isOpen
    "SUBSTRING"
  obtain ⟨d, checked, error, code, label⟩ := (checks v "SUBSTRING" 1 ⟨7, 16⟩).1.mpr tooFew
  refine ⟨isOpen, tooFew, enough, ⟨d, ?_, error, code, label⟩, ?_⟩
  · exact (answer 1 ⟨7, 16⟩).trans (congrArg Answer.diagnostics checked)
  · exact (answer 3 ⟨7, 16⟩).trans
      (congrArg Answer.diagnostics ((checks v "SUBSTRING" 3 ⟨7, 16⟩).2 enough))

end EntityQuery.Session
