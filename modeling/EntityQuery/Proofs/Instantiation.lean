import EntityQuery.ClassModel.Example
import EntityQuery.Proofs.Roles
import Mathlib.Data.List.Forall2

/-!
# Compatible types and constructors

Two types are compatible if they are equal, if one of them is unknown, or if both belong to one of
three groups: the numbers, the texts, and what has a place in the calendar. Collections belong to no
group, so they are compared as they stand, roles included. Being compatible is reflexive and
symmetric. It is transitive as long as the type in the middle is known; through an unknown one, any
two types are linked.

A query may construct an instance of a class from some arguments if some class model has the class
with a constructor whose parameters are compatible with the arguments, one by one. The check has
three verdicts, and this module says when each of them is given. Which one it is depends on an
argument only through the parameters that the argument is compatible with (`Covers`). Hence a known
type may be put in the place of a compatible one without any change, and an unknown one in the place
of any other without a constructor being lost (`Session.instantiation_coherent`).
-/

namespace EntityQuery

/-! ## Compatible types -/

/-- The scalars that may be compared with others, in groups. -/
def Scalar.groups : List (List Scalar) :=
  [[.byte, .short, .integer, .long, .float, .double, .bigInteger, .bigDecimal],
    [.character, .string], [.date, .timestamp]]

theorem Scalar.family_eq_iff (s s' : Scalar) :
    s.family = s'.family ↔ s = s' ∨ ∃ group ∈ groups, s ∈ group ∧ s' ∈ group := by
  cases s <;> cases s' <;> decide

namespace QueryType

variable {a b c : QueryType}

/-- What a known type is compared by: a scalar by its family, any other type by itself. -/
def kin : QueryType → Scalar.Family ⊕ QueryType
  | .scalar s => .inl s.family
  | type => .inr type

/-- Known types are compatible if they are of one kin. -/
theorem compatible_iff_kin (left : a ≠ .unknown) (right : b ≠ .unknown) :
    a.compatible b ↔ a.kin = b.kin := by
  cases a with
  | unknown => exact absurd rfl left
  | _ =>
    cases b with
    | unknown => exact absurd rfl right
    | _ => simp [compatible, kin]

@[simp] theorem compatible_unknown (a : QueryType) : a.compatible .unknown := by
  cases a <;> rfl

@[simp] theorem unknown_compatible (b : QueryType) : QueryType.unknown.compatible b := rfl

theorem compatible_refl (a : QueryType) : a.compatible a := by
  by_cases unknown : a = .unknown
  · rw [unknown]
    rfl
  · exact (compatible_iff_kin unknown unknown).mpr rfl

theorem compatible_symm (compatible : a.compatible b) : b.compatible a := by
  by_cases left : a = .unknown
  · rw [left]
    exact compatible_unknown b
  by_cases right : b = .unknown
  · rw [right]
    exact unknown_compatible a
  rw [compatible_iff_kin left right] at compatible
  exact (compatible_iff_kin right left).mpr compatible.symm

/-- Types are linked through a known one. -/
theorem compatible_trans (known : b ≠ .unknown) (first : a.compatible b) (second : b.compatible c) :
    a.compatible c := by
  by_cases left : a = .unknown
  · rw [left]
    exact unknown_compatible c
  by_cases right : c = .unknown
  · rw [right]
    exact compatible_unknown a
  rw [compatible_iff_kin left known] at first
  rw [compatible_iff_kin known right] at second
  exact (compatible_iff_kin left right).mpr (first.trans second)

/-- **When types are compatible**: they are equal, or one is unknown, or they are scalars of one
group. -/
theorem compatible_iff : a.compatible b ↔ a = b ∨ a = .unknown ∨ b = .unknown ∨
    ∃ group ∈ Scalar.groups, ∃ s ∈ group, ∃ s' ∈ group, a = .scalar s ∧ b = .scalar s' := by
  by_cases left : a = .unknown
  · simp [left]
  by_cases right : b = .unknown
  · simp [right]
  rw [compatible_iff_kin left right]
  cases a with
  | unknown => exact absurd rfl left
  | _ =>
    cases b with
    | unknown => exact absurd rfl right
    | _ => simp [kin, Scalar.family_eq_iff]

/-- The one type may stand wherever the other may, as far as parameters are concerned. -/
def Covers (a b : QueryType) : Prop := ∀ parameter : QueryType, parameter.compatible b →
  parameter.compatible a

theorem covers_of_compatible (known : b ≠ .unknown) (compatible : a.compatible b) : a.Covers b :=
  fun _ taken => compatible_trans known taken (compatible_symm compatible)

theorem unknown_covers (b : QueryType) : QueryType.unknown.Covers b :=
  fun parameter _ => compatible_unknown parameter

end QueryType

/-! ## Constructors -/

namespace ClassFact

/-- The parameters take the arguments: there are as many of the one as of the other, and each is
compatible with its counterpart. -/
def Takes (parameters arguments : List QueryType) : Prop :=
  List.Forall₂ (fun parameter argument => parameter.compatible argument) parameters arguments

theorem argumentsFit_iff (parameters arguments : List QueryType) :
    argumentsFit parameters arguments ↔ Takes parameters arguments := by
  unfold argumentsFit Takes
  rw [List.forall₂_iff_zip, Bool.and_eq_true, decide_eq_true_iff, List.all_eq_true]
  refine and_congr_right fun _ => ⟨?_, ?_⟩
  · intro fits parameter argument paired
    exact QueryType.compatible_symm (fits _ paired)
  · intro fits pair paired
    exact QueryType.compatible_symm (fits paired)

/-- Arguments may be put in the place of those that they cover. -/
theorem Takes.covered {parameters arguments others : List QueryType}
    (takes : Takes parameters arguments)
    (covered : List.Forall₂ QueryType.Covers others arguments) : Takes parameters others := by
  induction takes generalizing others with
  | nil =>
    cases covered
    exact .nil
  | cons compatible _ ih =>
    cases covered with
    | cons covers covered => exact .cons (covers _ compatible) (ih covered)

end ClassFact

namespace Schema

variable {schema : Schema} {className : String} {arguments others : List QueryType}

/-- Some class model among the sources has the fact about the class. -/
def HasFact (schema : Schema) (className : String) (fact : ClassFact) : Prop :=
  ∃ model, .classes model ∈ schema.sources ∧ model.classes.get? className = some fact

/-- Some class model among the sources has the class, with a constructor that takes the
arguments. -/
def Constructs (schema : Schema) (className : String) (arguments : List QueryType) : Prop :=
  ∃ fact, schema.HasFact className fact ∧ ∃ parameters ∈ fact.constructors,
    ClassFact.Takes parameters arguments

theorem mem_models {model : ClassModel} :
    model ∈ schema.models ↔ .classes model ∈ schema.sources := by
  unfold models
  rw [List.mem_filterMap]
  constructor
  · rintro ⟨source, listed, same⟩
    cases source with
    | classes other =>
      cases same
      exact listed
    | mapping document => cases same
  · intro listed
    exact ⟨.classes model, listed, rfl⟩

theorem hasClass_iff : schema.hasClass className ↔ ∃ fact, schema.HasFact className fact := by
  unfold hasClass HasFact
  simp only [List.any_eq_true, mem_models, ClassModel.hasClass, Table.contains,
    Option.isSome_iff_exists]
  constructor
  · rintro ⟨model, listed, fact, held⟩
    exact ⟨fact, model, listed, held⟩
  · rintro ⟨fact, model, listed, held⟩
    exact ⟨model, listed, fact, held⟩

theorem hasConstructor_iff :
    schema.models.any (·.hasConstructor className arguments) ↔
      schema.Constructs className arguments := by
  unfold Constructs HasFact
  simp only [List.any_eq_true, mem_models, ClassModel.hasConstructor, Option.any_eq_true,
    ClassFact.accepts, ClassFact.argumentsFit_iff]
  constructor
  · rintro ⟨model, listed, fact, held, taken⟩
    exact ⟨fact, ⟨model, listed, held⟩, taken⟩
  · rintro ⟨fact, ⟨model, listed, held⟩, taken⟩
    exact ⟨model, listed, fact, held, taken⟩

theorem Constructs.covered (constructs : schema.Constructs className arguments)
    (covered : List.Forall₂ QueryType.Covers others arguments) :
    schema.Constructs className others := by
  obtain ⟨fact, held, parameters, listed, takes⟩ := constructs
  exact ⟨fact, held, parameters, listed, takes.covered covered⟩

end Schema

/-! ## Verdicts -/

/-- What can be said to an instantiation. -/
inductive Verdict
  | unknownClass | noConstructor | constructs
  deriving DecidableEq

namespace Verdict

variable {schema : Schema} {className : String} {arguments others : List QueryType}
  {verdict other : Verdict}

/-- The answer that gives the verdict. -/
def answer (className : String) (arguments : List QueryType) : Verdict → Answer
  | .unknownClass => .refused (.schema (.unknownClass className))
  | .noConstructor => .refused (.schema (.noSuchConstructor className (arguments.map (·.name))))
  | .constructs => .done

/-- **The verdict is due**: no class model has the class; or one has, but none with a constructor
that takes the arguments; or one has it with such a constructor. -/
def Due (schema : Schema) (className : String) (arguments : List QueryType) : Verdict → Prop
  | .unknownClass => ¬ ∃ fact, schema.HasFact className fact
  | .noConstructor =>
    (∃ fact, schema.HasFact className fact) ∧ ¬ schema.Constructs className arguments
  | .constructs => schema.Constructs className arguments

theorem eq_of_answer
    (same : verdict.answer className arguments = other.answer className arguments) :
    verdict = other := by
  cases verdict <;> cases other <;> cases same <;> rfl

/-- Only one verdict is due. -/
theorem Due.unique (due : verdict.Due schema className arguments)
    (due' : other.Due schema className arguments) : verdict = other := by
  have known : schema.Constructs className arguments → ∃ fact, schema.HasFact className fact :=
    fun ⟨fact, held, _⟩ => ⟨fact, held⟩
  cases verdict <;> cases other <;> simp_all [Due]

/-- The check gives the verdict that is due. -/
theorem due_of_check (schema : Schema) (className : String) (arguments : List QueryType) :
    ∃ verdict : Verdict, verdict.Due schema className arguments ∧
      Session.report (fun _ => .done) (schema.checkInstantiation className arguments) =
        verdict.answer className arguments := by
  unfold Schema.checkInstantiation
  by_cases defined : schema.hasClass className
  · rw [defined]
    have known := Schema.hasClass_iff.mp defined
    by_cases made : schema.models.any (·.hasConstructor className arguments)
    · rw [made]
      exact ⟨.constructs, Schema.hasConstructor_iff.mp made, rfl⟩
    · rw [Bool.eq_false_iff.mpr made]
      have never : ¬ schema.Constructs className arguments :=
        fun constructs => made (Schema.hasConstructor_iff.mpr constructs)
      exact ⟨.noConstructor, ⟨known, never⟩, rfl⟩
  · rw [Bool.eq_false_iff.mpr defined]
    exact ⟨.unknownClass, fun known => defined (Schema.hasClass_iff.mpr known), rfl⟩

/-- Arguments that cover each other are due the same verdict. -/
theorem Due.covered (due : verdict.Due schema className arguments)
    (covered : List.Forall₂ QueryType.Covers others arguments)
    (covering : List.Forall₂ QueryType.Covers arguments others) :
    verdict.Due schema className others := by
  cases verdict with
  | unknownClass => exact due
  | noConstructor => exact ⟨due.1, fun constructs => due.2 (constructs.covered covering)⟩
  | constructs => exact Schema.Constructs.covered due covered

end Verdict

/-- The types may be exchanged: they are the same, or both are known and they are compatible. -/
def QueryType.Exchangeable (a b : QueryType) : Prop :=
  a = b ∨ (a ≠ .unknown ∧ b ≠ .unknown ∧ a.compatible b)

theorem QueryType.Exchangeable.covers {a b : QueryType} (exchangeable : a.Exchangeable b) :
    a.Covers b ∧ b.Covers a := by
  rcases exchangeable with rfl | ⟨left, right, compatible⟩
  · exact ⟨fun _ taken => taken, fun _ taken => taken⟩
  · exact ⟨covers_of_compatible right compatible,
      covers_of_compatible left (compatible_symm compatible)⟩

/-! ## Sessions -/

namespace Session

variable {s : Session}

theorem step_instantiate (isOpen : s.isOpen) (className : String) (arguments : List QueryType) :
    (s.step (.ask (.instantiate className arguments))).answer =
      report (fun _ => .done) (s.schema.checkInstantiation className arguments) := by
  rw [step_ask isOpen rfl, (s.look_reply _).1]
  unfold answer
  dsimp only
  cases s.schema.checkInstantiation className arguments <;> rfl

theorem answer_instantiate (isOpen : s.isOpen) {className : String} {arguments : List QueryType}
    {result : Except SchemaError Unit}
    (checked : s.schema.checkInstantiation className arguments = result) :
    (s.step (.ask (.instantiate className arguments))).answer = report (fun _ => .done) result := by
  rw [step_instantiate isOpen, checked]

/-- An open session gives a verdict exactly if it is due. -/
theorem answer_instantiate_iff (isOpen : s.isOpen) (className : String)
    (arguments : List QueryType) (verdict : Verdict) :
    (s.step (.ask (.instantiate className arguments))).answer = verdict.answer className arguments ↔
      verdict.Due s.schema className arguments := by
  obtain ⟨given, due, answer⟩ := Verdict.due_of_check s.schema className arguments
  rw [step_instantiate isOpen, answer]
  constructor
  · intro same
    rw [← Verdict.eq_of_answer same]
    exact due
  · intro due'
    rw [due.unique due']

/-- **Compatible types and constructors are coherent.** Being compatible is reflexive and symmetric,
and it is transitive through known types; what it means is said by `QueryType.compatible_iff`. An
open session, whatever its sources and its state, has one of three answers to an instantiation, and
gives each exactly if it is due: the class is unknown if no class model among the sources has it;
the instance can be constructed if some class model has the class with a constructor that takes the
arguments; and otherwise there is no such constructor. If arguments are exchanged for others, known
types for compatible known ones, the answer stays of the same sort. If arguments are replaced by
unknown ones, what could be constructed still can. -/
theorem instantiation_coherent :
    (∀ a : QueryType, a.compatible a) ∧
    (∀ a b : QueryType, a.compatible b → b.compatible a) ∧
    (∀ a b c : QueryType, b ≠ .unknown → a.compatible b → b.compatible c → a.compatible c) ∧
    (∀ a b : QueryType, a.compatible b ↔ a = b ∨ a = .unknown ∨ b = .unknown ∨
      ∃ group ∈ Scalar.groups, ∃ s ∈ group, ∃ s' ∈ group, a = .scalar s ∧ b = .scalar s') ∧
    (∀ (s : Session), s.isOpen → ∀ (className : String) (arguments : List QueryType),
      let answer (arguments : List QueryType) :=
        (s.step (.ask (.instantiate className arguments))).answer
      (∃ verdict : Verdict, answer arguments = verdict.answer className arguments) ∧
      (∀ verdict : Verdict, answer arguments = verdict.answer className arguments ↔
        verdict.Due s.schema className arguments) ∧
      (∀ others, List.Forall₂ QueryType.Exchangeable others arguments → ∀ verdict : Verdict,
        answer others = verdict.answer className others ↔
          answer arguments = verdict.answer className arguments) ∧
      (∀ others, List.Forall₂ (fun other argument => other = argument ∨ other = .unknown)
        others arguments → answer arguments = .done → answer others = .done)) := by
  refine ⟨QueryType.compatible_refl, fun _ _ => QueryType.compatible_symm,
    fun _ _ _ => QueryType.compatible_trans, fun _ _ => QueryType.compatible_iff, ?_⟩
  intro s isOpen className arguments answer
  have given := answer_instantiate_iff isOpen className
  refine ⟨?_, given arguments, ?_, ?_⟩
  · obtain ⟨verdict, due, -⟩ := Verdict.due_of_check s.schema className arguments
    exact ⟨verdict, (given arguments verdict).mpr due⟩
  · intro others exchanged verdict
    have covered : List.Forall₂ QueryType.Covers others arguments :=
      exchanged.imp fun _ _ exchangeable => exchangeable.covers.1
    have covering : List.Forall₂ QueryType.Covers arguments others :=
      (exchanged.imp fun _ _ exchangeable => exchangeable.covers.2).flip
    rw [given others, given arguments]
    exact ⟨fun due => due.covered covering covered, fun due => due.covered covered covering⟩
  · intro others replaced made
    have covered : List.Forall₂ QueryType.Covers others arguments := by
      refine replaced.imp ?_
      rintro other argument (rfl | rfl)
      · exact fun _ taken => taken
      · exact QueryType.unknown_covers argument
    have constructs : s.schema.Constructs className arguments :=
      (given arguments .constructs).mp made
    exact (given others .constructs).mpr (constructs.covered covered)

/-- Two class models have the class of summaries, each with a constructor of its own. A summary is
made from a text and a number, be it a character and a whole number, or from a day; not from a truth
value. A mapping has no classes. -/
theorem summaries_constructed :
    let record : ClassModel := .ofFacts
      [{ name := "com.acme.OrderSummary", constructors := [[.scalar .date]] }]
    let s := ((start [.mapping {}, .classes .company, .classes record] {} .standard .collecting).run
      [.entity "Order" .describe]).2
    let answer (arguments : List QueryType) :=
      (s.step (.ask (.instantiate "com.acme.OrderSummary" arguments))).answer
    s.isOpen ∧ answer [.scalar .string, .scalar .double] = .done ∧
      answer [.scalar .character, .scalar .bigInteger] = .done ∧
      answer [.unknown, .scalar .double] = .done ∧ answer [.scalar .date] = .done ∧
      answer [.scalar .timestamp] = .done ∧
      answer [.scalar .boolean] = Verdict.noConstructor.answer "com.acme.OrderSummary"
        [.scalar .boolean] ∧
      Verdict.noConstructor.Due s.schema "com.acme.OrderSummary" [.scalar .boolean] ∧
      Verdict.unknownClass.Due s.schema "com.acme.Invoice" [] := by
  intro record s answer
  have isOpen : s.isOpen := by decide +kernel
  obtain ⟨-, -, -, -, coherent⟩ := instantiation_coherent
  have summary := coherent s isOpen "com.acme.OrderSummary"
  have made : answer [.scalar .string, .scalar .double] = .done :=
    answer_instantiate isOpen (by decide +kernel : _ = .ok ())
  have dated : answer [.scalar .date] = .done :=
    answer_instantiate isOpen (by decide +kernel : _ = .ok ())
  have refused : answer [.scalar .boolean] =
      Verdict.noConstructor.answer "com.acme.OrderSummary" [.scalar .boolean] :=
    answer_instantiate isOpen (by decide +kernel : _ = .error _)
  have missing : (s.step (.ask (.instantiate "com.acme.Invoice" []))).answer =
      Verdict.unknownClass.answer "com.acme.Invoice" [] :=
    answer_instantiate isOpen (by decide +kernel : _ = .error _)
  have exchanged : ∀ {t t' : Scalar}, t.family = t'.family →
      QueryType.Exchangeable (.scalar t) (.scalar t') := by
    intro t t' same
    exact .inr ⟨nofun, nofun, decide_eq_true same⟩
  refine ⟨isOpen, made, ?_, ?_, dated, ?_, refused, ?_, ?_⟩
  · exact ((summary _).2.2.1 _ (.cons (exchanged rfl) (.cons (exchanged rfl) .nil))
      .constructs).mpr made
  · exact (summary _).2.2.2 _ (.cons (.inr rfl) (.cons (.inl rfl) .nil)) made
  · exact ((summary _).2.2.1 _ (.cons (exchanged rfl) .nil) .constructs).mpr dated
  · exact ((summary _).2.1 .noConstructor).mp refused
  · exact ((coherent s isOpen "com.acme.Invoice" []).2.1 .unknownClass).mp missing

end Session

end EntityQuery
