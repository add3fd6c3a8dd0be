import FilterQuery.Proofs.Sql.Meaning

/-!
# Evaluating a condition

What a condition is for one row of a store: true, false, or unknown.

* `Truth` -- the truth values. A comparison with a missing value is unknown, and the connectives
  answer only what holds whichever way the unknown turns out;
* `Engine` -- what a store does with the values themselves: how it compares them, and what its
  functions and casts give. All statements hold for every engine; `Engine.plain` is a simple one;
* `evaluate` -- the words of a condition are read, the bound values are put in the place of the
  placeholders, from left to right, and the expression is evaluated. There is no answer if the words
  are no condition, or if there are not as many values as placeholders;
* `Predicate.truth` -- the truth of a predicate, by recursion on it;
* `Says` -- an expression uses up the values of its predicate and no more. What is bound behind them
  is left for the next operand, which is what lets the induction go through the connectives;
* `evaluate_text`, `Filter.evaluate_build` -- the words of a predicate evaluate to its truth, so the
  filter of a query always has an answer.
-/

namespace FilterQuery.Sql

/-! ## 1. Truth values -/

/-- The truth values of conditions. -/
inductive Truth where
  | false
  | unknown
  | true
  deriving DecidableEq, Repr

namespace Truth

/-- A truth value that is known. -/
def ofBool (b : Bool) : Truth :=
  if b then .true else .false

/-- The truth value of `NOT`. -/
def not : Truth → Truth
  | .false => .true
  | .unknown => .unknown
  | .true => .false

/-- The truth value of `AND`. -/
def and : Truth → Truth → Truth
  | .false, _ => .false
  | _, .false => .false
  | .true, .true => .true
  | _, _ => .unknown

/-- The truth value of `OR`. -/
def or : Truth → Truth → Truth
  | .true, _ => .true
  | _, .true => .true
  | .false, .false => .false
  | _, _ => .unknown

/-- The truth value of some conditions that are joined by `OR`. -/
def any (conditions : List Truth) : Truth :=
  conditions.foldl or .false

@[simp] theorem not_not (t : Truth) : t.not.not = t := by
  cases t <;> rfl

@[simp] theorem false_or (t : Truth) : Truth.false.or t = t := by
  cases t <;> rfl

theorem not_ofBool (b : Bool) : (ofBool b).not = ofBool (!b) := by
  cases b <;> rfl

theorem and_ofBool (a b : Bool) : (ofBool a).and (ofBool b) = ofBool (a && b) := by
  cases a <;> cases b <;> rfl

theorem or_ofBool (a b : Bool) : (ofBool a).or (ofBool b) = ofBool (a || b) := by
  cases a <;> cases b <;> rfl

end Truth

/-! ## 2. Stores -/

/-- What a store does with its values, apart from the logic of conditions. A datum is a value, or
    `none` where a value is missing. -/
structure Engine (δ : Type) where
  /-- The value that takes the place of a placeholder. -/
  ofValue : Value → δ
  /-- The value of a known truth value. -/
  ofBool : Bool → δ
  /-- Whether a value counts as true. -/
  holds : δ → Bool
  holds_ofBool : ∀ b, holds (ofBool b) = b
  /-- The comparison of two values. -/
  compare : Comparator → δ → δ → Truth
  /-- The result of a function. -/
  call : String → List (Option δ) → Option δ
  /-- The result of a cast to a type. -/
  cast : String → Option δ → Option δ

/-- What the columns of a row hold, by their paths. -/
abbrev Row (δ : Type) := List String → Option δ

namespace Engine

variable {δ : Type} (engine : Engine δ)

/-- The truth value of a datum. -/
def truth : Option δ → Truth
  | none => .unknown
  | some value => .ofBool (engine.holds value)

/-- The datum of a truth value. -/
def datum : Truth → Option δ
  | .unknown => none
  | .true => some (engine.ofBool true)
  | .false => some (engine.ofBool false)

/-- The comparison of two data. -/
def compared (comparator : Comparator) : Option δ → Option δ → Truth
  | some a, some b => engine.compare comparator a b
  | _, _ => .unknown

@[simp] theorem truth_datum (t : Truth) : engine.truth (engine.datum t) = t := by
  cases t with
  | unknown => rfl
  | true | false =>
    simp only [datum, truth, engine.holds_ofBool]
    rfl

theorem datum_ofBool (b : Bool) : engine.datum (.ofBool b) = some (engine.ofBool b) := by
  cases b <;> rfl

@[simp] theorem truth_ofBool (b : Bool) : engine.truth (some (engine.ofBool b)) = .ofBool b := by
  simp only [truth, engine.holds_ofBool]

/-- The order of two values of one kind. -/
def order? : Value → Value → Option Ordering
  | .boolean a, .boolean b => some (Ord.compare a b)
  | .integer a, .integer b => some (Ord.compare a.toInt b.toInt)
  | .float x, .float y =>
    if x < y then some .lt else if y < x then some .gt else if x == y then some .eq else none
  | .text a, .text b => some (Ord.compare a b)
  | _, _ => none

/-- Whether an order is the one that a comparator asks for. -/
def asksFor : Comparator → Ordering → Bool
  | .equal => Ordering.isEq
  | .less => Ordering.isLT
  | .lessOrEqual => Ordering.isLE
  | .greater => Ordering.isGT
  | .greaterOrEqual => Ordering.isGE

/-- A store that keeps values as they are. It compares values of one kind and knows no patterns. -/
def plain : Engine Value where
  ofValue v := v
  ofBool := .boolean
  holds
    | .boolean b => b
    | _ => false
  holds_ofBool _ := rfl
  compare comparator a b :=
    match order? a b with
    | some order => .ofBool (asksFor comparator order)
    | none => .unknown
  call
    | "lower", [some (.text s)] => some (.text (s.map Char.toLower))
    | _, _ => none
  cast
    | "VARCHAR", some (.text s) => some (.text s)
    | _, _ => none

end Engine

/-! ## 3. Expressions -/

section Expressions

variable {δ : Type} (engine : Engine δ) (row : Row δ)

mutual

/-- The datum of an expression, and the bound values that are left over. -/
def Expr.eval : Expr → List Value → Option (Option δ × List Value)
  | .truth value, bound => some (some (engine.ofBool value), bound)
  | .column parts, bound => some (row parts, bound)
  | .placeholder, [] => none
  | .placeholder, v :: bound => some (some (engine.ofValue v), bound)
  | .call function arguments, bound => do
    let (data, bound) ← evalAll arguments bound
    return (engine.call function data, bound)
  | .cast operand type, bound => do
    let (d, bound) ← operand.eval bound
    return (engine.cast type d, bound)
  | .compare comparator left right, bound => do
    let (a, bound) ← left.eval bound
    let (b, bound) ← right.eval bound
    return (engine.datum (engine.compared comparator a b), bound)
  | .isNull operand, bound => do
    let (d, bound) ← operand.eval bound
    return (engine.datum (.ofBool d.isNone), bound)
  | .isIn operand items, bound => do
    let (d, bound) ← operand.eval bound
    let (data, bound) ← evalAll items bound
    return (engine.datum (.any (data.map (engine.compared .equal d))), bound)
  | .not operand, bound => do
    let (d, bound) ← operand.eval bound
    return (engine.datum (engine.truth d).not, bound)
  | .and left right, bound => do
    let (a, bound) ← left.eval bound
    let (b, bound) ← right.eval bound
    return (engine.datum ((engine.truth a).and (engine.truth b)), bound)
  | .or left right, bound => do
    let (a, bound) ← left.eval bound
    let (b, bound) ← right.eval bound
    return (engine.datum ((engine.truth a).or (engine.truth b)), bound)

/-- The data of some expressions, from left to right, and the bound values that are left over. -/
def evalAll : List Expr → List Value → Option (List (Option δ) × List Value)
  | [], bound => some ([], bound)
  | e :: others, bound => do
    let (d, bound) ← e.eval bound
    let (data, bound) ← evalAll others bound
    return (d :: data, bound)

end

/-- The truth value of a condition for a row, with bound values for its placeholders. -/
def evaluate (condition : String) (bound : List Value) : Option Truth := do
  let e ← readCondition condition
  match e.eval engine row bound with
  | some (d, []) => some (engine.truth d)
  | _ => none

/-- The truth value of a filter for a row. -/
def Filter.evaluate (f : Filter) : Option Truth :=
  Sql.evaluate engine row f.condition f.params

/-! ## 4. Predicates -/

/-- The truth value of a test of what a column holds. -/
def Test.truth (held : Option δ) (v : Value) : Test → Truth
  | .equal => engine.compared .equal held (engine.ofValue v)
  | .equalIgnoringCase =>
    engine.compared .equal (engine.call "lower" [held])
      (engine.call "lower" [some (engine.ofValue v)])
  | .less => engine.compared .less held (engine.ofValue v)
  | .lessOrEqual => engine.compared .lessOrEqual held (engine.ofValue v)
  | .greater => engine.compared .greater held (engine.ofValue v)
  | .greaterOrEqual => engine.compared .greaterOrEqual held (engine.ofValue v)
  | .matching =>
    engine.truth
      (engine.call "regexp_matches" [engine.cast "VARCHAR" held, some (engine.ofValue v)])
  | .nullness => engine.compared .equal (engine.ofBool held.isNone) (engine.ofValue v)

/-- The truth value of a predicate for a row. -/
def Predicate.truth : Predicate → Truth
  | .always => .true
  | .isNull column => .ofBool (row column.parts).isNone
  | .passes test column values => .any (values.map (test.truth engine (row column.parts)))
  | .member column values =>
    .any (values.map (fun v => engine.compared .equal (row column.parts) (engine.ofValue v)))
  | .and l r => l.truth.and r.truth
  | .or l r => l.truth.or r.truth
  | .not p => p.truth.not

/-- **An expression says a truth value** of bound values: it uses up exactly these, whatever stands
    behind them, which is what lets one expression follow another. -/
def Says (e : Expr) (values : List Value) (t : Truth) : Prop :=
  ∃ d, engine.truth d = t ∧ ∀ rest, e.eval engine row (values ++ rest) = some (d, rest)

namespace Says

variable {engine : Engine δ} {row : Row δ} {e f : Expr} {vs ws : List Value} {t u : Truth}

theorem of_datum (h : ∀ rest, e.eval engine row (vs ++ rest) = some (engine.datum t, rest)) :
    Says engine row e vs t :=
  ⟨engine.datum t, engine.truth_datum t, h⟩

theorem not (h : Says engine row e vs t) : Says engine row (.not e) vs t.not := by
  obtain ⟨d, rfl, eval⟩ := h
  refine of_datum fun rest => ?_
  rw [Expr.eval, eval]
  rfl

theorem and (left : Says engine row e vs t) (right : Says engine row f ws u) :
    Says engine row (.and e f) (vs ++ ws) (t.and u) := by
  obtain ⟨a, rfl, left⟩ := left
  obtain ⟨b, rfl, right⟩ := right
  refine of_datum fun rest => ?_
  simp only [Expr.eval, List.append_assoc, left, right, Option.bind_eq_bind, Option.bind_some,
    Option.pure_def]

theorem or (left : Says engine row e vs t) (right : Says engine row f ws u) :
    Says engine row (.or e f) (vs ++ ws) (t.or u) := by
  obtain ⟨a, rfl, left⟩ := left
  obtain ⟨b, rfl, right⟩ := right
  refine of_datum fun rest => ?_
  simp only [Expr.eval, List.append_assoc, left, right, Option.bind_eq_bind, Option.bind_some,
    Option.pure_def]

end Says

theorem says_truth (b : Bool) : Says engine row (.truth b) [] (.ofBool b) :=
  ⟨some (engine.ofBool b), engine.truth_ofBool b, fun _ => rfl⟩

theorem says_test (column : Column) (test : Test) (v : Value) :
    Says engine row (test.meaning column.meaning) [v]
      (test.truth engine (row column.parts) v) := by
  cases test with
  | matching => exact ⟨_, rfl, fun _ => rfl⟩
  | nullness =>
    refine .of_datum fun rest => ?_
    show some (engine.datum (engine.compared .equal
      (engine.datum (.ofBool (row column.parts).isNone)) _), rest) = _
    rw [engine.datum_ofBool]
    rfl
  | equal | equalIgnoringCase | less | lessOrEqual | greater | greaterOrEqual =>
    exact .of_datum fun _ => rfl

/-- Tests that follow an expression, each behind an `OR`. -/
theorem says_alternatives (column : Column) (test : Test) (values : List Value) {before : Expr}
    {vs : List Value} {t : Truth} (said : Says engine row before vs t) :
    Says engine row ((values.map (fun _ => test.meaning column.meaning)).foldl .or before)
      (vs ++ values) ((values.map (test.truth engine (row column.parts))).foldl .or t) := by
  induction values generalizing before vs t with
  | nil => rwa [List.append_nil]
  | cons v values ih =>
    have longer := ih (said.or (says_test engine row column test v))
    rwa [List.append_assoc] at longer

theorem says_passes (column : Column) (test : Test) :
    ∀ values, Says engine row (anyOf (values.map (fun _ => test.meaning column.meaning))) values
      (.any (values.map (test.truth engine (row column.parts))))
  | [] => says_truth engine row false
  | v :: values => by
    have first := says_test engine row column test v
    have all := says_alternatives engine row column test values first
    rw [List.map_cons, List.map_cons, Truth.any, List.foldl_cons, Truth.false_or]
    exact all

/-- Placeholders take the values that are bound, one each. -/
theorem evalAll_placeholders (values rest : List Value) :
    evalAll engine row (values.map (fun _ => Expr.placeholder)) (values ++ rest) =
      some (values.map (fun v => some (engine.ofValue v)), rest) := by
  induction values with
  | nil => rfl
  | cons v values ih =>
    simp only [List.map_cons, List.cons_append, evalAll, Expr.eval, Option.bind_eq_bind,
      Option.bind_some, Option.pure_def, ih]

theorem says_member (column : Column) (values : List Value) :
    Says engine row (listed column.meaning values) values
      (.any (values.map
        (fun v => engine.compared .equal (row column.parts) (engine.ofValue v)))) := by
  unfold listed
  by_cases none_left : values = []
  · subst none_left
    exact says_truth engine row false
  · rw [if_neg none_left]
    refine .of_datum fun rest => ?_
    simp only [Expr.eval, Column.meaning, evalAll_placeholders, Option.bind_eq_bind,
      Option.bind_some, Option.pure_def, List.map_map, Function.comp_def]

/-- **The expression of a predicate says its truth value**, and uses up its values. -/
theorem says_meaning (p : Predicate) :
    Says engine row p.meaning p.params (p.truth engine row) := by
  induction p with
  | always => exact says_truth engine row true
  | isNull column => exact .of_datum fun _ => rfl
  | passes test column values => exact says_passes engine row column test values
  | member column values => exact says_member engine row column values
  | and l r left right => exact left.and right
  | or l r left right => exact left.or right
  | not p operand => exact operand.not

/-! ## 5. Conditions -/

/-- **The words of a predicate evaluate to its truth value**, with its values bound, if its columns
    have names. -/
theorem evaluate_text {p : Predicate} (named : ∀ column ∈ p.columns, column.Named) :
    evaluate engine row p.text p.params = some (p.truth engine row) := by
  obtain ⟨d, truth, eval⟩ := says_meaning engine row p
  have all := eval []
  rw [List.append_nil] at all
  rw [evaluate, readCondition_text named, Option.bind_eq_bind, Option.bind_some, all]
  show some (engine.truth d) = _
  rw [truth]

example :
    evaluate Engine.plain (fun _ => none) "(NOT (\"age\" = ?) OR \"age\" IS NULL)" [.integer 3] =
      some .true := by rfl

/-- **The filter of a query always has a truth value**: that of the predicate of its tree. -/
theorem Filter.evaluate_build (resolve : Resolver) (q : Query) :
    (Filter.build resolve q).evaluate engine row =
      some ((treePredicate resolve q.root).truth engine row) :=
  evaluate_text engine row (named_treePredicate resolve q.root)

end Expressions

end FilterQuery.Sql
