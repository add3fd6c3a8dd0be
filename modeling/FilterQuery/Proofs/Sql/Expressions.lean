import FilterQuery.Proofs.Pieces
import FilterQuery.Proofs.Sql.Reading
import FilterQuery.Proofs.Sql.Scanning

/-!
# The expression of a written condition

The text of a predicate is read as the expression that the predicate stands for, whatever names its
columns have.

* `Predicate.meaning` -- that expression;
* `Stands` -- a reader that holds an expression, up to operators that a looser token will close;
* `ReadsAs` -- tokens that lead from any reader that expects an operand to one that stands for an
  expression. What is open around them stays as it is, which is what lets the induction go through
  the brackets;
* `readTokens_joined` -- without brackets, how tightly a joint binds decides;
* `readsAs_tokens` -- the tokens of a predicate are read as its expression;
* `readCondition_text` -- all of the text is read, and it is read so.
-/

namespace FilterQuery.Sql

/-! ## 1. Expressions of predicates -/

/-- Any of some expressions; false when there are none. -/
def anyOf : List Expr → Expr
  | [] => .truth false
  | e :: others => others.foldl .or e

/-- The expression of a test of one value. -/
def Test.meaning (column : Expr) : Test → Expr
  | .equal => .compare .equal column .placeholder
  | .equalIgnoringCase =>
    .compare .equal (.call "lower" [column]) (.call "lower" [.placeholder])
  | .less => .compare .less column .placeholder
  | .lessOrEqual => .compare .lessOrEqual column .placeholder
  | .greater => .compare .greater column .placeholder
  | .greaterOrEqual => .compare .greaterOrEqual column .placeholder
  | .matching => .call "regexp_matches" [.cast column "VARCHAR", .placeholder]
  | .nullness => .compare .equal (.isNull column) .placeholder

/-- The expression of a list of values. -/
def listed (column : Expr) (values : List Value) : Expr :=
  if values = [] then .truth false else .isIn column (values.map (fun _ => .placeholder))

/-- The expression of a column. -/
def Column.meaning (column : Column) : Expr :=
  .column column.parts

/-- The expression of a predicate. -/
def Predicate.meaning : Predicate → Expr
  | .always => .truth true
  | .isNull column => .isNull column.meaning
  | .passes test column values => anyOf (values.map (fun _ => test.meaning column.meaning))
  | .member column values => listed column.meaning values
  | .and l r => .and l.meaning r.meaning
  | .or l r => .or l.meaning r.meaning
  | .not p => .not p.meaning

/-! ## 2. Reading tokens -/

/-- The token of a joint. -/
def Joint.token : Joint → Token
  | .or => .keyword .or
  | .and => .keyword .and
  | .compare comparator => .comparator comparator

theorem Reader.pushBehind_joint (r : Reader) (joint : Joint) :
    r.pushBehind joint.token = (r.settled joint.level).bind (Reader.addJoint joint) := by
  cases joint <;> rfl

/-- Tokens lead from one reader to another. -/
def Leads (r : Reader) (tokens : List Token) (last : Reader) : Prop :=
  r.run tokens = some last

namespace Leads

theorem refl (r : Reader) : Leads r [] r := rfl

theorem cons {r s t : Reader} {token : Token} {tokens : List Token} (first : r.push token = some s)
    (rest : Leads s tokens t) : Leads r (token :: tokens) t := by
  unfold Leads Reader.run at *
  rw [List.foldlM_cons, first]
  exact rest

theorem append {r s t : Reader} {ts us : List Token} (first : Leads r ts s)
    (second : Leads s us t) : Leads r (ts ++ us) t := by
  unfold Leads Reader.run at *
  rw [List.foldlM_append, first]
  exact second

end Leads

/-- **A reader stands for an expression** inside what is open around it: once the operators that
    bind more tightly than `limit` are closed, that expression is left. -/
structure Stands (limit : Nat) (frames : List Open) (e : Expr) (r : Reader) : Prop where
  whole : r.position.operand?.isSome = true
  settled_eq : ∀ level ≤ limit, r.settled level = settle level frames e

namespace Stands

variable {limit : Nat} {frames : List Open} {e : Expr} {r : Reader}

theorem of_operand {position : Position} (h : position.operand? = some e) :
    Stands limit frames e ⟨frames, position⟩ where
  whole := by rw [h]; rfl
  settled_eq level _ := by simp only [Reader.settled, h, Option.bind_some]

theorem weaken {tighter : Nat} (h : Stands tighter frames e r) (below : limit ≤ tighter) :
    Stands limit frames e r where
  whole := h.whole
  settled_eq level least := h.settled_eq level (by omega)

/-- The right operand of a joint stands for what the joint makes of both. -/
theorem joined {joint : Joint} {left : Expr} (h : Stands limit (.joined joint left :: frames) e r)
    (tight : limit < joint.level ∨ limit = joint.level ∧ joint.chains = true) :
    Stands limit frames (joint.join left e) r where
  whole := h.whole
  settled_eq level least := by
    have closes : level < joint.level ∨ level = joint.level ∧ joint.chains = true := by
      rcases tight with below | ⟨same, chains⟩
      · exact .inl (by omega)
      · rcases Nat.lt_or_eq_of_le least with below | equal
        · exact .inl (by omega)
        · exact .inr ⟨by omega, chains⟩
    rw [h.settled_eq level least, settle, if_pos closes]

/-- The operand of `NOT` stands for its negation. -/
theorem negated (h : Stands limit (.not :: frames) e r) (loose : limit ≤ notLevel) :
    Stands limit frames (.not e) r where
  whole := h.whole
  settled_eq level least := by
    have closes : level ≤ notLevel := by omega
    rw [h.settled_eq level least, settle, if_pos closes]

/-- A token behind an expression, whatever is still open inside it. -/
theorem push_eq (h : Stands limit frames e r) {token : Token} (no_dot : token ≠ .dot) :
    r.push token = r.pushBehind token := by
  obtain ⟨open_frames, position⟩ := r
  have whole := h.whole
  cases position with
  | column parts => cases token <;> first | rfl | exact absurd rfl no_dot
  | whole e => rfl
  | operand | function | castWord | columnDot | is | oneOf | as | typed => cases whole

theorem push_closing (h : Stands limit frames e r) :
    r.push .closing = (settle 0 frames e).bind Reader.close := by
  rw [h.push_eq (by decide), Reader.pushBehind, h.settled_eq 0 (Nat.zero_le limit)]

/-- A joint that binds less tightly than anything that is still open waits for its other operand. -/
theorem push_joint (h : Stands limit frames e r) {joint : Joint} (loose : joint.level ≤ limit) :
    r.push joint.token = (settle joint.level frames e).bind (Reader.addJoint joint) := by
  have no_dot : joint.token ≠ .dot := by cases joint <;> nofun
  rw [h.push_eq no_dot, Reader.pushBehind_joint, h.settled_eq joint.level loose]

theorem finish_eq (h : Stands limit [] e r) : r.finish = some e := by
  rw [Reader.finish, h.settled_eq 0 (Nat.zero_le limit)]
  rfl

end Stands

/-! ## 3. Operands -/

/-- No comparison waits for its right operand, so a comparator may follow the next one. -/
def Uncompared (frames : List Open) : Prop :=
  ∀ comparator left, frames.head? ≠ some (.joined (.compare comparator) left)

theorem uncompared_joined {joint : Joint} (chains : joint.chains = true) (e : Expr)
    (frames : List Open) : Uncompared (.joined joint e :: frames) := by
  intro comparator left same
  cases same
  cases chains

/-- What chains binds less tightly than `NOT`. -/
theorem Joint.lt_notLevel {joint : Joint} (chains : joint.chains = true) :
    joint.level < notLevel := by
  cases joint with
  | or | and => decide
  | compare => cases chains

theorem tight_comparison {comparator : Comparator} :
    notLevel < (Joint.compare comparator).level := by
  simp only [notLevel, Joint.level]
  omega

/-- An operator that binds as tightly as a comparison closes nothing but comparisons. -/
theorem settle_uncompared {frames : List Open} (free : Uncompared frames) {level : Nat}
    (tight : notLevel < level) (e : Expr) : settle level frames e = some (frames, e) := by
  unfold notLevel at tight
  cases frames with
  | nil => rfl
  | cons first frames =>
    cases first with
    | not => rw [settle, if_neg (by unfold notLevel; omega)]
    | joined joint left =>
      cases chains : joint.chains with
      | true =>
        have loose : joint.level < notLevel := Joint.lt_notLevel chains
        unfold notLevel at loose
        rw [settle, if_neg (by omega), if_neg (by omega)]
      | false =>
        cases joint with
        | compare comparator => exact absurd rfl (free comparator left)
        | or | and => cases chains
    | group | arguments | items | cast => rfl

/-- A comparator behind an operand waits for the other one. -/
theorem push_comparator {frames : List Open} (free : Uncompared frames) (comparator : Comparator)
    (position : Position) {e : Expr} (h : position.operand? = some e) :
    Reader.push ⟨frames, position⟩ (.comparator comparator) =
      some ⟨.joined (.compare comparator) e :: frames, .operand⟩ := by
  have stands : Stands 0 frames e ⟨frames, position⟩ := Stands.of_operand h
  have no_dot : Token.comparator comparator ≠ .dot := nofun
  rw [stands.push_eq no_dot, Reader.pushBehind, Reader.settled, h, Option.bind_some,
    settle_uncompared free tight_comparison]
  rfl

/-- A comparison that is whole but for its operator. -/
theorem stands_comparison {frames : List Open} {comparator : Comparator} {left right : Expr}
    {r : Reader} (h : Stands notLevel (.joined (.compare comparator) left :: frames) right r) :
    Stands notLevel frames (.compare comparator left right) r :=
  h.joined (.inl tight_comparison)

/-- **Tokens are read as an expression** wherever an operand may stand, but for the right side of a
    comparison. -/
def ReadsAs (tokens : List Token) (e : Expr) : Prop :=
  ∀ frames, Uncompared frames →
    ∃ r, Leads ⟨frames, .operand⟩ tokens r ∧ Stands notLevel frames e r

/-- Two operands with a connective between them, in brackets. -/
theorem readsAs_joined (joint : Joint) {ts us : List Token} {e f : Expr} (left : ReadsAs ts e)
    (right : ReadsAs us f) (chains : joint.chains = true) :
    ReadsAs ([.opening] ++ (ts ++ ([joint.token] ++ (us ++ [.closing])))) (joint.join e f) := by
  intro frames _
  have inside : Uncompared (.group :: frames) := nofun
  obtain ⟨first, left_read, left_stands⟩ := left _ inside
  have joined : first.push joint.token = some ⟨.joined joint e :: .group :: frames, .operand⟩ :=
    left_stands.push_joint (Nat.le_of_lt (Joint.lt_notLevel chains))
  obtain ⟨second, right_read, right_stands⟩ :=
    right _ (uncompared_joined chains e (.group :: frames))
  have whole := (right_stands.weaken (Nat.zero_le notLevel)).joined (.inl joint.level_pos)
  have closed := whole.push_closing
  exact ⟨_, .cons rfl (left_read.append (.cons joined (right_read.append
    (.cons closed (.refl _))))), .of_operand rfl⟩

/-- A negated operand, in brackets. -/
theorem readsAs_negated {ts : List Token} {e : Expr} (operand : ReadsAs ts e) :
    ReadsAs ([.keyword .not, .opening] ++ (ts ++ [.closing])) (.not e) := by
  intro frames _
  have inside : Uncompared (.group :: .not :: frames) := nofun
  obtain ⟨last, operand_read, operand_stands⟩ := operand _ inside
  have closed := operand_stands.push_closing
  have whole : Stands notLevel (.not :: frames) e ⟨.not :: frames, .whole e⟩ := .of_operand rfl
  exact ⟨_, .cons rfl (.cons rfl (operand_read.append (.cons closed (.refl _)))),
    whole.negated (Nat.le_refl notLevel)⟩

/-! ## 4. Operands without brackets -/

theorem readTokens_eq {tokens : List Token} {e : Expr} {limit : Nat} {r : Reader}
    (read : Leads {} tokens r) (stands : Stands limit [] e r) : readTokens tokens = some e := by
  unfold readTokens
  rw [show ({} : Reader).run tokens = some r from read, Option.bind_some, stands.finish_eq]

/-- **Of two joints the tighter one takes its operands first**, and of two alike the left one. This
    is how the reader would read a condition whose brackets are missing. -/
theorem readTokens_joined {first second : Joint} {ts us vs : List Token} {e f g : Expr}
    (first_chains : first.chains = true) (second_chains : second.chains = true)
    (left : ReadsAs ts e) (middle : ReadsAs us f) (right : ReadsAs vs g) :
    readTokens (ts ++ first.token :: (us ++ second.token :: vs)) =
      some (if first.level < second.level then first.join e (second.join f g)
        else second.join (first.join e f) g) := by
  have first_loose := Nat.le_of_lt (Joint.lt_notLevel first_chains)
  have second_loose := Nat.le_of_lt (Joint.lt_notLevel second_chains)
  obtain ⟨r, left_read, left_stands⟩ := left [] nofun
  have opened : r.push first.token = some ⟨[.joined first e], .operand⟩ :=
    left_stands.push_joint first_loose
  obtain ⟨s, middle_read, middle_stands⟩ := middle _ (uncompared_joined first_chains e [])
  have pushed := middle_stands.push_joint second_loose
  by_cases tighter : first.level < second.level
  · have waits : s.push second.token =
        some ⟨[.joined second f, .joined first e], .operand⟩ := by
      rw [pushed, settle, if_neg (by omega), if_neg (by omega)]
      rfl
    obtain ⟨t, right_read, right_stands⟩ :=
      right _ (uncompared_joined second_chains f [.joined first e])
    have inner := (right_stands.weaken (Nat.zero_le notLevel)).joined (.inl second.level_pos)
    rw [if_pos tighter]
    exact readTokens_eq (left_read.append (.cons opened (middle_read.append
      (.cons waits right_read)))) (inner.joined (.inl first.level_pos))
  · have closes : second.level < first.level ∨
        second.level = first.level ∧ first.chains = true := by
      rcases Nat.lt_or_eq_of_le (Nat.le_of_not_lt tighter) with below | equal
      · exact .inl below
      · exact .inr ⟨equal, first_chains⟩
    have waits : s.push second.token =
        some ⟨[.joined second (first.join e f)], .operand⟩ := by
      rw [pushed, settle, if_pos closes]
      rfl
    obtain ⟨t, right_read, right_stands⟩ :=
      right _ (uncompared_joined second_chains (first.join e f) [])
    rw [if_neg tighter]
    exact readTokens_eq (left_read.append (.cons opened (middle_read.append
      (.cons waits right_read))))
      ((right_stands.weaken (Nat.zero_le notLevel)).joined (.inl second.level_pos))

example : readCondition "NOT \"a\" = ? OR TRUE AND FALSE" =
    some (.or (.not (.compare .equal (.column ["a"]) .placeholder))
      (.and (.truth true) (.truth false))) := by rfl

/-! ## 5. Columns and tests -/

/-- The parts of a column behind its first one. -/
theorem leads_parts (frames : List Open) (parts before : List String) :
    Leads ⟨frames, .column before⟩
      ((parts.map (fun part => [Token.name part])).flatMap ([Token.dot] ++ ·))
      ⟨frames, .column (before ++ parts)⟩ := by
  induction parts generalizing before with
  | nil =>
    rw [List.append_nil]
    exact Leads.refl _
  | cons part parts ih =>
    have rest := ih (before ++ [part])
    rw [List.append_assoc, List.singleton_append] at rest
    exact Leads.cons rfl (Leads.cons rfl rest)

theorem leads_column {column : Column} (named : column.Named) (frames : List Open) :
    Leads ⟨frames, .operand⟩ column.tokens ⟨frames, .column column.parts⟩ := by
  obtain ⟨parts⟩ := column
  cases parts with
  | nil => exact absurd rfl named
  | cons part parts =>
    rw [Column.tokens, List.map_cons, intercalate_cons]
    exact Leads.cons rfl (leads_parts frames parts [part])

/-- **A test is read as its expression.** The tokens around the column are read one by one; only at
    a comparator does it matter what is open around the test. -/
theorem readsAs_test {column : Column} (named : column.Named) (test : Test) :
    ReadsAs (test.tokens column.tokens) (test.meaning column.meaning) := by
  intro frames free
  have compared : ∀ comparator, ∃ r,
      Leads ⟨frames, .operand⟩ (column.tokens ++ [.comparator comparator, .placeholder]) r ∧
        Stands notLevel frames (.compare comparator column.meaning .placeholder) r := by
    intro comparator
    have opened := push_comparator free comparator (.column column.parts) rfl
    exact ⟨_, (leads_column named frames).append (.cons opened (.cons rfl (.refl _))),
      stands_comparison (.of_operand rfl)⟩
  cases test with
  | equal => exact compared .equal
  | less => exact compared .less
  | lessOrEqual => exact compared .lessOrEqual
  | greater => exact compared .greater
  | greaterOrEqual => exact compared .greaterOrEqual
  | equalIgnoringCase =>
    have inside := leads_column named (.arguments "lower" [] :: frames)
    have opened := push_comparator free .equal (.whole (.call "lower" [column.meaning])) rfl
    have right : Leads ⟨.joined (.compare .equal) (.call "lower" [column.meaning]) :: frames,
        .operand⟩ [.word "lower", .opening, .placeholder, .closing]
        ⟨.joined (.compare .equal) (.call "lower" [column.meaning]) :: frames,
          .whole (.call "lower" [.placeholder])⟩ := rfl
    exact ⟨_, .cons rfl (.cons rfl (inside.append (.cons rfl (.cons opened right)))),
      stands_comparison (.of_operand rfl)⟩
  | matching =>
    have inside := leads_column named (.cast :: .arguments "regexp_matches" [] :: frames)
    have around : Leads ⟨.cast :: .arguments "regexp_matches" [] :: frames, .column column.parts⟩
        [.keyword .as, .word "VARCHAR", .closing, .comma, .placeholder, .closing]
        ⟨frames, .whole (.call "regexp_matches" [.cast column.meaning "VARCHAR", .placeholder])⟩ :=
      rfl
    exact ⟨_, .cons rfl (.cons rfl (.cons rfl (.cons rfl (inside.append around)))),
      .of_operand rfl⟩
  | nullness =>
    have inside := leads_column named (.group :: frames)
    have opened := push_comparator free .equal (.whole (.isNull column.meaning)) rfl
    exact ⟨_, .cons rfl (inside.append (.cons rfl (.cons rfl (.cons rfl (.cons opened
      (.cons rfl (.refl _))))))), stands_comparison (.of_operand rfl)⟩

/-! ## 6. Values of one column -/

/-- Tests that follow an expression, each behind an `OR`, inside a bracket. -/
theorem leads_alternatives {column : Column} (named : column.Named) (frames : List Open)
    (test : Test) (values : List Value) {before : Expr} {r : Reader}
    (stands : Stands 1 (.group :: frames) before r) :
    ∃ last, Leads r ((values.map (fun _ => test.tokens column.tokens)).flatMap
        ([Token.keyword .or] ++ ·)) last ∧
      Stands 1 (.group :: frames)
        ((values.map (fun _ => test.meaning column.meaning)).foldl .or before) last := by
  induction values generalizing before r with
  | nil => exact ⟨r, .refl r, stands⟩
  | cons value values ih =>
    have opened : r.push Joint.or.token =
        some ⟨.joined .or before :: .group :: frames, .operand⟩ := stands.push_joint (Nat.le_refl 1)
    have free : Uncompared (.joined .or before :: .group :: frames) := nofun
    obtain ⟨next, tested, tested_stands⟩ := readsAs_test named test _ free
    have joined := (tested_stands.weaken (by decide)).joined (.inr ⟨rfl, rfl⟩)
    obtain ⟨last, rest, rest_stands⟩ := ih joined
    exact ⟨last, .cons opened (tested.append rest), rest_stands⟩

/-- **One test per value is read as any of the tests**, and none as false. -/
theorem readsAs_passes {column : Column} (named : column.Named) (test : Test) :
    ∀ values, ReadsAs (Predicate.passesTokens test column.tokens values)
      (anyOf (values.map (fun _ => test.meaning column.meaning)))
  | [] => fun _ _ => ⟨_, .cons rfl (.refl _), .of_operand rfl⟩
  | [_] => readsAs_test named test
  | v :: w :: values => by
    intro frames _
    have inside : Uncompared (.group :: frames) := nofun
    obtain ⟨first, tested, first_stands⟩ := readsAs_test named test _ inside
    obtain ⟨last, rest, last_stands⟩ :=
      leads_alternatives named frames test (w :: values) (first_stands.weaken (by decide))
    have closed := last_stands.push_closing
    rw [Predicate.passesTokens, List.map_cons, intercalate_cons]
    exact ⟨_, .cons rfl ((tested.append rest).append (.cons closed (.refl _))), .of_operand rfl⟩

/-- The placeholders of a list, up to its bracket. -/
theorem leads_placeholders (frames : List Open) (operand : Expr) :
    ∀ (values : List Value) (before : List Expr), values ≠ [] →
    Leads ⟨.items operand before :: frames, .operand⟩
      ([Token.comma].intercalate (values.map (fun _ => [.placeholder])) ++ [.closing])
      ⟨frames, .whole (.isIn operand (before ++ values.map (fun _ => .placeholder)))⟩
  | [], _, some_value => absurd rfl some_value
  | [_], _, _ => rfl
  | _ :: w :: values, before, _ => by
    have rest := leads_placeholders frames operand (w :: values) (before ++ [.placeholder])
      (List.cons_ne_nil w values)
    rw [List.append_assoc] at rest
    rw [List.map_cons, List.map_cons, List.intercalate_cons_cons, List.append_assoc,
      List.append_assoc]
    exact .cons rfl (.cons rfl rest)

/-- **A list of placeholders is read as a list with one placeholder per value.** -/
theorem readsAs_member {column : Column} (named : column.Named) :
    ∀ values, ReadsAs (Predicate.memberTokens column.tokens values) (listed column.meaning values)
  | [] => fun _ _ => ⟨_, .cons rfl (.refl _), .of_operand rfl⟩
  | v :: values => by
    intro frames free
    have opened : Reader.push ⟨frames, .column column.parts⟩ (.keyword .oneOf) =
        some ⟨frames, .oneOf column.meaning⟩ := by
      show (settle inLevel frames (.column column.parts)).map _ = _
      rw [settle_uncompared free (by decide)]
      rfl
    have placeholders := leads_placeholders frames column.meaning (v :: values) []
      (List.cons_ne_nil v values)
    exact ⟨_, (leads_column named frames).append (.cons opened (.cons rfl placeholders)),
      .of_operand rfl⟩

/-- **A column is tested for having no value.** -/
theorem readsAs_isNull {column : Column} (named : column.Named) :
    ReadsAs (column.tokens ++ [.keyword .is, .keyword .null]) (.isNull column.meaning) := by
  intro frames free
  have opened : Reader.push ⟨frames, .column column.parts⟩ (.keyword .is) =
      some ⟨frames, .is column.meaning⟩ := by
    show (settle isLevel frames (.column column.parts)).map _ = _
    rw [settle_uncompared free (by decide)]
    rfl
  exact ⟨_, (leads_column named frames).append (.cons opened (.cons rfl (.refl _))),
    .of_operand rfl⟩

/-! ## 7. Predicates -/

/-- **The tokens of a predicate are read as its expression.** A bracket stands around every
    connective and around the operand of every negation, so what is still open at the end of an
    operand is closed by what follows it. -/
theorem readsAs_tokens {p : Predicate} (named : ∀ column ∈ p.columns, column.Named) :
    ReadsAs p.tokens p.meaning := by
  induction p with
  | always => exact fun _ _ => ⟨_, .cons rfl (.refl _), .of_operand rfl⟩
  | isNull column => exact readsAs_isNull (named column (List.mem_singleton.mpr rfl))
  | passes test column values =>
    exact readsAs_passes (named column (List.mem_singleton.mpr rfl)) test values
  | member column values =>
    exact readsAs_member (named column (List.mem_singleton.mpr rfl)) values
  | and l r left right =>
    have left_read := left (fun c h => named c (List.mem_append_left _ h))
    have right_read := right (fun c h => named c (List.mem_append_right _ h))
    exact readsAs_joined .and left_read right_read rfl
  | or l r left right =>
    have left_read := left (fun c h => named c (List.mem_append_left _ h))
    have right_read := right (fun c h => named c (List.mem_append_right _ h))
    exact readsAs_joined .or left_read right_read rfl
  | not p operand => exact readsAs_negated (operand named)

/-- **The text of a predicate is read as its expression**, if its columns have names. -/
theorem readCondition_text {p : Predicate} (named : ∀ column ∈ p.columns, column.Named) :
    readCondition p.text = some p.meaning := by
  have tokens := (Predicate.spells_text named).tokenize_eq
  have free : Uncompared [] := nofun
  obtain ⟨r, read, stands⟩ := readsAs_tokens named [] free
  unfold readCondition
  rw [tokens, Option.bind_some]
  exact readTokens_eq read stands

end FilterQuery.Sql
