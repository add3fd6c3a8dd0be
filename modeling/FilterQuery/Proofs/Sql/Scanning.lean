import FilterQuery.Proofs.Sql.Tokens
import FilterQuery.Sql.Predicate

/-!
# The tokens of a written condition

No name can end the quotes around it, and no two tokens of a condition run into each other.

* `Scans` -- what a text adds to the tokens, from one state of the scanner to another;
* `Spells` -- a text that stands for tokens of its own, whatever delimiter follows it;
* `spells_quoteIdentifier` -- a quoted name is one token, the name itself, for every name;
* `spells_text` -- the text of a predicate spells its tokens, `Predicate.tokens`.
-/

namespace FilterQuery.Sql

/-! ## 1. Scanning a text -/

/-- A text leads the scanner from one state to another and ends these tokens on the way. -/
def Scans (before : Pending) (text : List Char) (tokens : List Token) (after : Pending) : Prop :=
  before.scan text = some (tokens, after)

theorem Scans.append {p q r : Pending} {w v : List Char} {ts us : List Token}
    (first : Scans p w ts q) (second : Scans q v us r) : Scans p (w ++ v) (ts ++ us) r := by
  unfold Scans at *
  induction w generalizing p ts with
  | nil =>
    simp only [Pending.scan, Option.some.injEq, Prod.mk.injEq] at first
    obtain ⟨rfl, rfl⟩ := first
    exact second
  | cons c w ih =>
    simp only [Pending.scan, List.cons_append, Option.bind_eq_bind, Option.bind_eq_some_iff,
      Option.pure_def, Option.some.injEq, Prod.mk.injEq, Prod.exists] at first ⊢
    obtain ⟨here, next, stepped, there, last, scanned, rfl, rfl⟩ := first
    exact ⟨here, next, stepped, there ++ us, r, ih scanned, (List.append_assoc ..).symm, rfl⟩

/-- The characters behind which a token does not go on. -/
def isDelimiter (c : Char) : Bool :=
  c == ' ' || c == '.' || c == ',' || c == ')'

/-- **A delimiter ends the token at hand**, as the end of the text does. -/
theorem next_delimiter {p : Pending} {ended : List Token} (finished : p.finish = some ended)
    {c : Char} (delimiter : isDelimiter c = true) :
    p.next c = (Pending.start c).map (fun (tokens, q) => (ended ++ tokens, q)) := by
  simp only [isDelimiter, Bool.or_eq_true, beq_iff_eq] at delimiter
  rcases delimiter with ((rfl | rfl) | rfl) | rfl
  all_goals cases p <;> cases finished <;> rfl

/-! ## 2. Texts with tokens of their own -/

/-- A text stands for tokens, the last of which may still be at hand at its end. -/
def Spells (text : List Char) (tokens : List Token) : Prop :=
  ∃ before last ended, Scans .none text before last ∧ last.finish = some ended ∧
    before ++ ended = tokens

namespace Spells

theorem of_scans {w : List Char} {ts : List Token} (h : Scans .none w ts .none) : Spells w ts :=
  ⟨ts, .none, [], h, rfl, List.append_nil ts⟩

theorem keyword (k : Keyword) : Spells k.text.toList [.keyword k] := by
  cases k
  all_goals exact ⟨[], .word _, _, rfl, rfl, rfl⟩

theorem tokenize_eq {text : String} {ts : List Token} (h : Spells text.toList ts) :
    tokenize text = some ts := by
  obtain ⟨before, last, ended, scanned, finished, rfl⟩ := h
  unfold tokenize
  rw [show Pending.none.scan text.toList = some (before, last) from scanned]
  simp [finished]

/-- A text that ends its tokens may stand in front of any other. -/
theorem behind {w v : List Char} {ts us : List Token} (first : Scans .none w ts .none)
    (second : Spells v us) : Spells (w ++ v) (ts ++ us) := by
  obtain ⟨before, last, ended, scanned, finished, rfl⟩ := second
  exact ⟨ts ++ before, last, ended, first.append scanned, finished, List.append_assoc ..⟩

/-- Any text may stand in front of one that begins with a delimiter. -/
theorem append {w v : List Char} {ts us : List Token} (first : Spells w ts)
    (delimited : v.head?.any isDelimiter = true) (second : Spells v us) :
    Spells (w ++ v) (ts ++ us) := by
  obtain ⟨before, last, ended, scanned, finished, rfl⟩ := first
  obtain ⟨more, final, rest, scanned', finished', rfl⟩ := second
  have joined : Scans last v (ended ++ more) final := by
    cases v with
    | nil => cases delimited
    | cons c v =>
      unfold Scans at *
      simp only [Pending.scan, Option.bind_eq_bind, Option.bind_eq_some_iff, Option.pure_def,
        Option.some.injEq, Prod.mk.injEq, Prod.exists] at scanned' ⊢
      obtain ⟨here, next, started, there, _, scanned'', rfl, rfl⟩ := scanned'
      refine ⟨ended ++ here, next, ?_, there, _, scanned'', List.append_assoc .., rfl⟩
      rw [next_delimiter finished delimited, show Pending.start c = some (here, next) from started]
      rfl
  exact ⟨before ++ (ended ++ more), final, rest, scanned.append joined, finished',
    by simp only [List.append_assoc]⟩

/-- Texts that are joined by a text in between stand for their tokens, joined by its tokens. -/
theorem intercalate {α : Type} {f : α → List Char} {g : α → List Token} {s : List Char}
    {t : List Token} (delimited : s.head?.any isDelimiter = true)
    (divided : Scans .none s t .none) :
    ∀ {xs : List α}, xs ≠ [] → (∀ x ∈ xs, Spells (f x) (g x)) →
      Spells (s.intercalate (xs.map f)) (t.intercalate (xs.map g))
  | [], some_part, _ => absurd rfl some_part
  | [x], _, each => by
    simpa [List.intercalate] using each x List.mem_cons_self
  | x :: y :: xs, _, each => by
    have first := each x List.mem_cons_self
    have rest := intercalate delimited divided (List.cons_ne_nil y xs)
      (fun z hz => each z (List.mem_cons_of_mem x hz))
    have limited : ∀ v, (s ++ v).head?.any isDelimiter = true := by
      intro v
      cases s with
      | nil => cases delimited
      | cons c s => exact delimited
    have whole := first.append (limited _) (behind divided rest)
    simpa [List.intercalate] using whole

end Spells

/-! ## 3. Columns -/

/-- **The quotes around a name close behind its last character**, whatever the name holds. -/
theorem scans_name (name seen : List Char) :
    Scans (.quoted seen) (name.flatMap doubleQuote ++ ['"']) [] (.closing (seen ++ name)) := by
  induction name generalizing seen with
  | nil =>
    rw [List.append_nil]
    rfl
  | cons c name ih =>
    have rest := ih (seen ++ [c])
    rw [List.append_assoc, List.singleton_append] at rest
    rw [List.flatMap_cons, List.append_assoc]
    have first : Scans (.quoted seen) (doubleQuote c) [] (.quoted (seen ++ [c])) := by
      unfold doubleQuote
      by_cases quote : c = '"'
      · subst quote
        rfl
      · rw [if_neg quote]
        simp only [Scans, Pending.scan, Pending.next, if_neg quote, Option.bind_eq_bind,
          Option.bind_some, Option.pure_def, List.append_nil]
    exact first.append rest

theorem spells_quoteIdentifier (name : String) :
    Spells (quoteIdentifier name).toList [.name name] := by
  have opened : Scans .none ['"'] [] (.quoted []) := rfl
  have scanned := opened.append (scans_name name.toList [])
  refine ⟨[], .closing name.toList, [.name name], ?_, ?_, rfl⟩
  · simpa [quoteIdentifier] using scanned
  · simp only [Pending.finish, String.ofList_toList]

namespace Column

/-- The tokens of a column: its parts, joined by dots. -/
def tokens (column : Column) : List Token :=
  [Token.dot].intercalate (column.parts.map (fun part => [.name part]))

/-- A column that has a text. -/
def Named (column : Column) : Prop :=
  column.parts ≠ []

theorem spells_text {column : Column} (named : column.Named) :
    Spells column.text.toList column.tokens := by
  have parts := Spells.intercalate (s := ".".toList) (t := [.dot])
    (f := fun part => (quoteIdentifier part).toList) (g := fun part => [.name part]) rfl rfl named
    (fun part _ => spells_quoteIdentifier part)
  rw [text, String.toList_intercalate, List.map_map]
  exact parts

end Column

/-! ## 4. Predicates -/

/-- The tokens of a test, given those of its column. -/
def Test.tokens (column : List Token) : Test → List Token
  | .equal => column ++ [.comparator .equal, .placeholder]
  | .equalIgnoringCase =>
    [.word "lower", .opening] ++ (column ++
      [.closing, .comparator .equal, .word "lower", .opening, .placeholder, .closing])
  | .less => column ++ [.comparator .less, .placeholder]
  | .lessOrEqual => column ++ [.comparator .lessOrEqual, .placeholder]
  | .greater => column ++ [.comparator .greater, .placeholder]
  | .greaterOrEqual => column ++ [.comparator .greaterOrEqual, .placeholder]
  | .matching =>
    [.word "regexp_matches", .opening, .keyword .cast, .opening] ++ (column ++
      [.keyword .as, .word "VARCHAR", .closing, .comma, .placeholder, .closing])
  | .nullness =>
    [.opening] ++ (column ++
      [.keyword .is, .keyword .null, .closing, .comparator .equal, .placeholder])

theorem Test.spells_text {column : String} {ts : List Token} (h : Spells column.toList ts)
    (test : Test) : Spells (test.text column).toList (test.tokens ts) := by
  cases test with
  | equalIgnoringCase =>
    simp only [Test.text, String.toList_join, List.flatMap_cons, List.flatMap_nil, List.append_nil]
    exact Spells.behind rfl (h.append rfl (.of_scans rfl))
  | matching =>
    simp only [Test.text, String.toList_join, List.flatMap_cons, List.flatMap_nil, List.append_nil]
    exact Spells.behind rfl (h.append rfl (.of_scans rfl))
  | nullness =>
    simp only [Test.text, String.toList_join, List.flatMap_cons, List.flatMap_nil, List.append_nil]
    exact Spells.behind rfl (h.append rfl (.of_scans rfl))
  | equal | less | lessOrEqual | greater | greaterOrEqual =>
    simp only [Test.text, String.toList_append]
    exact h.append rfl (.of_scans rfl)

namespace Predicate

/-- The tokens of one test per value, joined by `OR`. -/
def passesTokens (test : Test) (column : List Token) (values : List Value) : List Token :=
  match values with
  | [] => [.keyword .false]
  | [_] => test.tokens column
  | v :: w :: others =>
    [.opening] ++ ([Token.keyword .or].intercalate
      ((v :: w :: others).map (fun _ => test.tokens column)) ++ [.closing])

/-- The tokens of a list with one placeholder per value. -/
def memberTokens (column : List Token) (values : List Value) : List Token :=
  match values with
  | [] => [.keyword .false]
  | values =>
    column ++ ([.keyword .oneOf, .opening] ++
      ([Token.comma].intercalate (values.map (fun _ => [.placeholder])) ++ [.closing]))

/-- The tokens of a condition. -/
def tokens : Predicate → List Token
  | .always => [.keyword .true]
  | .isNull column => column.tokens ++ [.keyword .is, .keyword .null]
  | .passes test column values => passesTokens test column.tokens values
  | .member column values => memberTokens column.tokens values
  | .and l r => [.opening] ++ (l.tokens ++ ([.keyword .and] ++ (r.tokens ++ [.closing])))
  | .or l r => [.opening] ++ (l.tokens ++ ([.keyword .or] ++ (r.tokens ++ [.closing])))
  | .not p => [.keyword .not, .opening] ++ (p.tokens ++ [.closing])

/-- The columns of a condition, from left to right. -/
def columns : Predicate → List Column
  | .always => []
  | .isNull column | .passes _ column _ | .member column _ => [column]
  | .and l r | .or l r => l.columns ++ r.columns
  | .not p => p.columns

theorem spells_passesText {column : String} {ts : List Token} (h : Spells column.toList ts)
    (test : Test) :
    ∀ values, Spells (passesText test column values).toList (passesTokens test ts values)
  | [] => Spells.keyword .false
  | [_] => test.spells_text h
  | v :: w :: values => by
    have joined := Spells.intercalate (s := " OR ".toList) (t := [.keyword .or])
      (f := fun _ => (test.text column).toList) (g := fun _ => test.tokens ts) rfl rfl
      (List.cons_ne_nil v (w :: values)) (fun _ _ => test.spells_text h)
    simp only [passesText, String.toList_append, String.toList_intercalate, List.map_map,
      List.append_assoc]
    exact Spells.behind rfl (joined.append rfl (.of_scans rfl))

theorem spells_memberText {column : String} {ts : List Token} (h : Spells column.toList ts) :
    ∀ values, Spells (memberText column values).toList (memberTokens ts values)
  | [] => Spells.keyword .false
  | v :: values => by
    have listed := Spells.intercalate (s := ", ".toList) (t := [.comma])
      (f := fun _ => "?".toList) (g := fun _ => [.placeholder]) rfl rfl
      (List.cons_ne_nil v values) (fun _ _ => .of_scans rfl)
    simp only [memberText, String.toList_append, String.toList_intercalate, List.map_map,
      List.append_assoc]
    exact h.append rfl (.behind rfl (listed.append rfl (.of_scans rfl)))

/-- **The text of a predicate spells its tokens.** Both sides of a connective, and the operand of a
    negation, stand in front of a delimiter. -/
theorem spells_text {p : Predicate} (named : ∀ column ∈ p.columns, column.Named) :
    Spells p.text.toList p.tokens := by
  induction p with
  | always => exact Spells.keyword .true
  | isNull column =>
    have column_spelled := Column.spells_text (named column (List.mem_singleton.mpr rfl))
    rw [text, String.toList_append]
    exact column_spelled.append rfl (.behind (w := " IS ".toList) rfl (.keyword .null))
  | passes test column values =>
    exact spells_passesText (Column.spells_text (named column (List.mem_singleton.mpr rfl))) test
      values
  | member column values =>
    exact spells_memberText (Column.spells_text (named column (List.mem_singleton.mpr rfl))) values
  | and l r left right | or l r left right =>
    have left_spelled := left (fun c h => named c (List.mem_append_left _ h))
    have right_spelled := right (fun c h => named c (List.mem_append_right _ h))
    simp only [text, String.toList_append, List.append_assoc]
    exact Spells.behind rfl (left_spelled.append rfl
      (.behind rfl (right_spelled.append rfl (.of_scans rfl))))
  | not p operand =>
    simp only [text, String.toList_append, List.append_assoc]
    exact Spells.behind rfl ((operand named).append rfl (.of_scans rfl))

end Predicate

end FilterQuery.Sql
