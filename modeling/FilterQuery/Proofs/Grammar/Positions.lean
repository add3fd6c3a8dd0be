import FilterQuery.Proofs.Grammar.Acceptance
import Mathlib.Data.String.Basic

/-!
# Where a query goes wrong

A refusal that reports a position reports the first one behind which nothing can be mended: no text
with the same beginning up to there is a query. There is one exception, a connective at the very end
of the text, behind which an operand is missing.

* `Forsaken` -- a text that no continuation makes a query;
* `fault_of_push` -- one character reports the position behind itself, unless a `!` stands behind a
  closed group: then the fault was at the `!`, and the character only shows it;
* `refused_of_run` -- a run is refused at one of its characters, and with it every run that goes on
  differently behind that character;
* `Query.position_of_refused` -- so positions are truthful.
-/

namespace FilterQuery

open String (utf8Len utf8Len_append utf8Len_cons utf8Len_nil utf8Len_toList utf8Len_eq_zero)

variable {limits : Limits}

/-! ## 1. Reported positions -/

/-- The position that a refusal reports. Faults of size, of one clause and of the whole text have
    none. -/
def QueryFault.position? : QueryFault → Option Nat
  | .misplacedConnective _ position => some position
  | .misplacedGroup position => some position
  | .tooDeep _ position => some position
  | .unmatchedClose position => some position
  | .missingConnective position => some position
  | .emptyClause position => some position
  | .tooLong .. | .badClause .. | .unclosedGroup => none

/-- The position stands at the end of the message. -/
theorem QueryFault.message_of_position {fault : QueryFault} {position : Nat}
    (reported : fault.position? = some position) :
    ∃ cause, fault.message = cause ++ " at byte " ++ toString position := by
  cases fault with
  | tooLong | badClause | unclosedGroup => cases reported
  | misplacedConnective connective p =>
    obtain rfl : p = position := Option.some.inj reported
    refine ⟨"combinator `" ++ connective.mark.toString ++ "` out of place", ?_⟩
    have ending : "` out of place at byte " = "` out of place" ++ " at byte " := by decide
    simp only [message, String.join, List.foldl, ending, String.append_assoc, String.empty_append]
  | misplacedGroup p =>
    obtain rfl : p = position := Option.some.inj reported
    exact ⟨"group must follow a combinator", rfl⟩
  | tooDeep limit p =>
    obtain rfl : p = position := Option.some.inj reported
    exact ⟨"groups nested deeper than " ++ toString limit, rfl⟩
  | unmatchedClose p =>
    obtain rfl : p = position := Option.some.inj reported
    exact ⟨"unmatched `)`", rfl⟩
  | missingConnective p =>
    obtain rfl : p = position := Option.some.inj reported
    exact ⟨"missing combinator after group", rfl⟩
  | emptyClause p =>
    obtain rfl : p = position := Option.some.inj reported
    exact ⟨"empty clause", rfl⟩

namespace Draft

/-! ## 2. Drafts count bytes -/

theorem position_of_connect {d e : Draft} {connective : Connective} {position : Nat}
    (h : d.connect connective position = .ok e) : e.position = position := by
  obtain ⟨_, _, waits⟩ := bind_eq_ok.mp h
  cases waits
  rfl

theorem position_of_closeGroup {d e : Draft} {position : Nat}
    (h : d.closeGroup position = .ok e) : e.position = position := by
  unfold closeGroup at h
  split at h
  · cases h
  · obtain ⟨_, _, closed⟩ := bind_eq_ok.mp h
    cases closed
    rfl

theorem position_of_addChar {d e : Draft} {c : Char} {position : Nat}
    (h : d.addChar c position = .ok e) : e.position = position := by
  unfold addChar at h
  split at h
  · cases h
    rfl
  · split at h
    · cases h
      rfl
    · cases h
  · cases h

theorem position_of_push {d e : Draft} {c : Char} (h : d.push limits c = .ok e) :
    e.position = d.position + c.utf8Size := by
  unfold push at h
  simp only at h
  split at h
  · obtain ⟨_, _, _, rfl⟩ := Grammar.openGroup_cases h
    rfl
  · split at h
    · cases h
    · split at h
      · exact position_of_connect h
      · split at h
        · exact position_of_connect h
        · split at h
          · exact position_of_closeGroup h
          · exact position_of_addChar h

/-- **The position of a draft** is the number of bytes that led to it. -/
theorem position_of_reads : ∀ {w : List Char} {d e : Draft}, Reads limits d w e →
    e.position = d.position + utf8Len w
  | [], d, e, h => by
    cases h
    rfl
  | c :: w, d, e, h => by
    unfold Reads at h
    rw [List.foldlM_cons] at h
    obtain ⟨next, pushed, run⟩ := bind_eq_ok.mp h
    have rest : e.position = next.position + utf8Len w := position_of_reads run
    rw [rest, position_of_push pushed, utf8Len_cons]
    omega

/-! ## 3. The fault of one character -/

/-- An operand that cannot be read has no position, unless a `!` stands behind a group. -/
theorem fault_of_operand? {d : Draft} {fault : QueryFault} (plain : d.slot.isMarked = false)
    (h : d.operand? = .error fault) : fault.position? = none := by
  unfold operand? at h
  split at h
  · cases h
  · split at h
    · cases h
    · next refused =>
      cases h
      unfold Segment.parse at refused
      split at refused
      · cases refused
      · cases refused
        rfl
  · cases h
  · next marked =>
    rw [marked] at plain
    cases plain

/-- A level is refused at a position only for a missing operand. -/
theorem fault_of_close {d : Draft} {vacant fault : QueryFault} {position : Nat}
    (plain : d.slot.isMarked = false) (h : d.close vacant = .error fault)
    (reported : fault.position? = some position) : fault = vacant ∧ d.operand? = .ok none := by
  unfold close at h
  rcases bind_eq_error.mp h with refused | ⟨operand, found, ended⟩
  · rw [fault_of_operand? plain refused] at reported
    cases reported
  · cases operand with
    | none =>
      cases ended
      exact ⟨rfl, found⟩
    | some => cases ended

theorem fault_of_openGroup {d : Draft} {p position : Nat} {fault : QueryFault}
    (h : d.openGroup limits p = .error fault) (reported : fault.position? = some position) :
    position = p := by
  have entered : ∀ negated, openGroup.enter limits d p negated = .error fault → position = p := by
    intro negated h
    unfold openGroup.enter at h
    split at h
    · cases h
      exact (Option.some.inj reported).symm
    · cases h
  unfold openGroup at h
  split at h
  · exact entered false h
  · exact entered true h
  · cases h
    exact (Option.some.inj reported).symm

theorem fault_of_connect {d : Draft} {connective : Connective} {p position : Nat}
    {fault : QueryFault} (plain : d.slot.isMarked = false)
    (h : d.connect connective p = .error fault) (reported : fault.position? = some position) :
    position = p := by
  unfold connect at h
  rcases bind_eq_error.mp h with refused | ⟨_, _, waits⟩
  · obtain ⟨rfl, -⟩ := fault_of_close plain refused reported
    exact (Option.some.inj reported).symm
  · cases waits

theorem fault_of_closeGroup {d : Draft} {p position : Nat} {fault : QueryFault}
    (plain : d.slot.isMarked = false) (h : d.closeGroup p = .error fault)
    (reported : fault.position? = some position) : position = p := by
  unfold closeGroup at h
  split at h
  · cases h
    exact (Option.some.inj reported).symm
  · rcases bind_eq_error.mp h with refused | ⟨_, _, closed⟩
    · obtain ⟨rfl, -⟩ := fault_of_close plain refused reported
      exact (Option.some.inj reported).symm
    · cases closed

theorem fault_of_addChar {d : Draft} {c : Char} {p position : Nat} {fault : QueryFault}
    (plain : d.slot.isMarked = false) (h : d.addChar c p = .error fault)
    (reported : fault.position? = some position) : position = p := by
  unfold addChar at h
  split at h
  · cases h
  · split at h
    · cases h
    · cases h
      exact (Option.some.inj reported).symm
  · next marked =>
    rw [marked] at plain
    cases plain

/-- **One character** reports the position behind itself. Only where a `!` stands behind a closed
    group may the position be that of the draft, just behind the `!`. -/
theorem fault_of_push {d : Draft} {c : Char} {fault : QueryFault} {position : Nat}
    (h : d.push limits c = .error fault) (reported : fault.position? = some position) :
    position = d.position + c.utf8Size ∨ position = d.position ∧ d.slot.isMarked = true := by
  unfold push at h
  simp only at h
  split at h
  · exact .inl (fault_of_openGroup h reported)
  · split at h
    · next marked =>
      cases h
      exact .inr ⟨(Option.some.inj reported).symm, marked⟩
    · next unmarked =>
      have plain : d.slot.isMarked = false := Bool.eq_false_of_not_eq_true unmarked
      split at h
      · exact .inl (fault_of_connect plain h reported)
      · split at h
        · exact .inl (fault_of_connect plain h reported)
        · split at h
          · exact .inl (fault_of_closeGroup plain h reported)
          · exact .inl (fault_of_addChar plain h reported)

/-- Behind a closed group with a `!`, every character is refused. -/
theorem push_marked {d : Draft} (marked : d.slot.isMarked = true) (c : Char) :
    ∃ fault, d.push limits c = .error fault := by
  unfold push
  simp only [marked, if_true]
  split
  · unfold openGroup
    split
    · next empty =>
      rw [empty] at marked
      cases marked
    · next mark =>
      rw [mark] at marked
      cases marked
    · exact ⟨_, rfl⟩
  · exact ⟨_, rfl⟩

/-! ## 4. The fault of a run -/

/-- **A run is refused at one of its characters.** -/
theorem refused_of_run : ∀ {w : List Char} {d : Draft} {fault : QueryFault},
    w.foldlM (push limits) d = .error fault →
    ∃ before c after e, w = before ++ c :: after ∧ Reads limits d before e ∧
      e.push limits c = .error fault
  | [], _, _, h => by cases h
  | c :: w, d, fault, h => by
    rw [List.foldlM_cons] at h
    rcases bind_eq_error.mp h with refused | ⟨next, pushed, run⟩
    · exact ⟨[], c, w, d, rfl, Reads.refl d, refused⟩
    · obtain ⟨before, b, after, e, rfl, reads, refused⟩ := refused_of_run run
      exact ⟨c :: before, b, after, e, rfl, Reads.cons pushed reads, refused⟩

/-- The fault at the end of the text: a `!` behind a closed group, or a missing operand. -/
theorem fault_of_finish {d : Draft} {fault : QueryFault} {position : Nat}
    (h : d.finish = .error fault) (reported : fault.position? = some position) :
    position = d.position ∧ (d.slot.isMarked = true ∨
      fault = .emptyClause position ∧ d.outer = [] ∧ d.operand? = .ok none) := by
  unfold finish at h
  split at h
  · next marked =>
    cases h
    exact ⟨(Option.some.inj reported).symm, .inl marked⟩
  · next unmarked =>
    split at h
    · next outermost =>
      have plain : d.slot.isMarked = false := Bool.eq_false_of_not_eq_true unmarked
      obtain ⟨rfl, vacant⟩ := fault_of_close plain h reported
      obtain rfl : d.position = position := Option.some.inj reported
      exact ⟨rfl, .inr ⟨rfl, List.isEmpty_iff.mp outermost, vacant⟩⟩
    · cases h
      cases reported

theorem slot_of_vacant {d : Draft} (vacant : d.operand? = .ok none) : d.slot = .clause [] := by
  unfold operand? at vacant
  split at vacant
  · next empty => exact empty
  · split at vacant <;> cases vacant
  · cases vacant
  · cases vacant

/-- An operand that is missing outside of all groups, but not at the start, is missing behind a
    connective. -/
theorem connective_of_vacant {w : List Char} {d : Draft} (some_char : w ≠ [])
    (reads : Reads limits {} w d) (outermost : d.outer = []) (vacant : d.operand? = .ok none) :
    ∃ connective : Connective, w.getLast? = some connective.mark := by
  have empty := slot_of_vacant vacant
  obtain ⟨before, c, rfl⟩ := (List.eq_nil_or_concat w).resolve_left some_char
  rw [List.concat_eq_append] at reads ⊢
  unfold Reads at reads
  rw [List.foldlM_append] at reads
  obtain ⟨e, -, last⟩ := bind_eq_ok.mp reads
  obtain ⟨_, pushed, ended⟩ := bind_eq_ok.mp last
  cases ended
  rcases Grammar.push_cases pushed with ⟨-, _, opened⟩ | ⟨connective, _, rfl, -⟩ |
    ⟨-, _, closed⟩ | ⟨-, _, added⟩
  · obtain ⟨_, -, -, rfl⟩ := Grammar.openGroup_cases opened
    cases outermost
  · exact ⟨connective, List.getLast?_concat⟩
  · -- a closed group stands in the slot
    unfold closeGroup at closed
    split at closed
    · cases closed
    · obtain ⟨_, -, leaves⟩ := bind_eq_ok.mp closed
      cases leaves
      cases empty
  · -- the character stands in the slot
    unfold addChar at added
    split at added
    · cases added
      cases empty
    · split at added
      · cases added
        cases empty
      · cases added
    · cases added

end Draft

/-! ## 5. Texts that cannot be mended -/

/-- A text that no continuation makes a query. -/
def Forsaken (limits : Limits) (text : String) : Prop :=
  ∀ rest q, Query.parse limits (text ++ rest) ≠ .ok q

open Draft Grammar

/-- A query that is not empty is read from its characters. -/
theorem read_of_parse {text : String} {q : Query} (some_char : text ≠ "")
    (h : Query.parse limits text = .ok q) : Tree.read limits text.toList = .ok q.root := by
  obtain ⟨-, -, ⟨empty, -⟩ | body⟩ := query_eq_ok_iff.mp h
  · exact absurd empty some_char
  · exact read_of_body body

/-- A refusal with a position comes from the characters of a text that has some. -/
theorem refused_of_parse {text : String} {fault : QueryFault} {position : Nat}
    (h : Query.parse limits text = .error (.malformed fault))
    (reported : fault.position? = some position) :
    text.toList ≠ [] ∧ Tree.read limits text.toList = .error fault := by
  unfold Query.parse Tree.parse at h
  split at h
  · cases h
  · next refused =>
    cases h
    split at refused
    · cases refused
      cases reported
    · split at refused
      · cases refused
      · next some_char =>
        exact ⟨fun empty => some_char (String.toList_eq_nil_iff.mp empty), refused⟩

/-- What is read behind the beginning of a text goes on from the draft that holds it. -/
theorem read_append {before : List Char} {d : Draft} (reads : Reads limits {} before d)
    (rest : List Char) :
    Tree.read limits (before ++ rest) = rest.foldlM (push limits) d >>= Draft.finish := by
  unfold Reads at reads
  unfold Tree.read
  rw [List.foldlM_append, reads]
  rfl

theorem forsaken_of_read {w : List Char} (some_char : w ≠ [])
    (refused : ∀ rest t, Tree.read limits (w ++ rest) ≠ .ok t) :
    Forsaken limits (String.ofList w) := by
  intro rest q h
  have some_text : String.ofList w ++ rest ≠ "" := by
    intro empty
    have none_left := congrArg String.toList empty
    rw [String.toList_append, String.toList_ofList] at none_left
    exact some_char (List.append_eq_nil_iff.mp none_left).1
  have read := read_of_parse some_text h
  rw [String.toList_append, String.toList_ofList] at read
  exact refused _ _ read

/-- A run that is refused at a character is refused with every text behind that character. -/
theorem forsaken_of_push {before : List Char} {c : Char} {d : Draft} {fault : QueryFault}
    (reads : Reads limits {} before d) (refused : d.push limits c = .error fault) :
    Forsaken limits (String.ofList (before ++ [c])) := by
  refine forsaken_of_read (List.append_ne_nil_of_right_ne_nil _ (List.cons_ne_nil c [])) ?_
  intro rest t read
  rw [List.append_assoc, read_append reads, List.singleton_append, List.foldlM_cons,
    refused] at read
  cases read

/-- Behind a closed group with a `!` there fits neither a character nor the end. -/
theorem forsaken_of_marked {before : List Char} {d : Draft} (reads : Reads limits {} before d)
    (marked : d.slot.isMarked = true) :
    before ≠ [] ∧ Forsaken limits (String.ofList before) := by
  have some_char : before ≠ [] := by
    rintro rfl
    cases reads
    cases marked
  refine ⟨some_char, forsaken_of_read some_char ?_⟩
  intro rest t read
  rw [read_append reads] at read
  cases rest with
  | nil =>
    have refused : d.finish = .error (.missingConnective d.position) := by
      unfold finish
      rw [if_pos marked]
    rw [List.foldlM_nil] at read
    exact absurd (refused.symm.trans read) (by simp)
  | cons c rest =>
    have stuck : ∃ fault, d.push limits c = .error fault := push_marked marked c
    obtain ⟨fault, refused⟩ := stuck
    rw [List.foldlM_cons, refused] at read
    cases read

/-- **The position of a refusal** cuts off a beginning that cannot be mended, or stands behind a
    connective at the end. -/
theorem position_of_read {w : List Char} {fault : QueryFault} {position : Nat} (some_char : w ≠ [])
    (refused : Tree.read limits w = .error fault) (reported : fault.position? = some position) :
    ∃ seen rest, w = seen ++ rest ∧ seen ≠ [] ∧ utf8Len seen = position ∧
      (Forsaken limits (String.ofList seen) ∨ fault = .emptyClause position ∧ rest = [] ∧
        ∃ connective : Connective, w.getLast? = some connective.mark) := by
  have counted : ∀ {seen : List Char} {d : Draft}, Reads limits {} seen d →
      d.position = utf8Len seen :=
    fun reads => (position_of_reads reads).trans (Nat.zero_add _)
  rcases bind_eq_error.mp refused with stopped | ⟨d, reads, unfinished⟩
  · obtain ⟨before, c, after, d, rfl, reads, at_char⟩ := refused_of_run stopped
    rcases fault_of_push at_char reported with rfl | ⟨rfl, marked⟩
    · refine ⟨before ++ [c], after, List.append_cons .., ?_, ?_, .inl (forsaken_of_push reads at_char)⟩
      · exact List.append_ne_nil_of_right_ne_nil _ (List.cons_ne_nil c [])
      · rw [utf8Len_append, counted reads, utf8Len_cons, utf8Len_nil, Nat.zero_add]
    · obtain ⟨some_before, forsaken⟩ := forsaken_of_marked reads marked
      exact ⟨before, c :: after, rfl, some_before, (counted reads).symm, .inl forsaken⟩
  · obtain ⟨rfl, marked | ⟨missing, outermost, vacant⟩⟩ := fault_of_finish unfinished reported
    · have forsaken := (forsaken_of_marked reads marked).2
      exact ⟨w, [], (List.append_nil w).symm, some_char, (counted reads).symm, .inl forsaken⟩
    · have connective := connective_of_vacant some_char reads outermost vacant
      exact ⟨w, [], (List.append_nil w).symm, some_char, (counted reads).symm,
        .inr ⟨missing, rfl, connective⟩⟩

/-! ## 6. Queries -/

/-- **Reported positions are truthful**: the message ends in a position that is the end of a
    character of the text, and no text with the same beginning up to there is a query. Only behind
    a connective at the end of the text it may be that an operand is all that is missing. -/
theorem Query.position_of_refused {text : String} {fault : QueryFault} {position : Nat}
    (refused : Query.parse limits text = .error (.malformed fault))
    (reported : fault.position? = some position) :
    (∃ cause, fault.message = cause ++ " at byte " ++ toString position) ∧
      1 ≤ position ∧ position ≤ text.utf8ByteSize ∧
      ∃ seen rest, text = seen ++ rest ∧ seen.utf8ByteSize = position ∧
        (Forsaken limits seen ∨ fault = .emptyClause position ∧ rest = "" ∧
          ∃ connective : Connective, text.toList.getLast? = some connective.mark) := by
  obtain ⟨some_char, unread⟩ := refused_of_parse refused reported
  obtain ⟨seen, rest, split, some_seen, size, mended⟩ := position_of_read some_char unread reported
  have size_eq : (String.ofList seen).utf8ByteSize = position := by
    rw [String.utf8ByteSize_ofList, size]
  have text_eq : text = String.ofList seen ++ String.ofList rest := by
    rw [← String.ofList_append, ← split, String.ofList_toList]
  refine ⟨fault.message_of_position reported, ?_, ?_, String.ofList seen, String.ofList rest,
    text_eq, size_eq, ?_⟩
  · rw [← size]
    exact Nat.one_le_iff_ne_zero.mpr fun empty => some_seen (utf8Len_eq_zero.mp empty)
  · rw [text_eq, String.utf8ByteSize_append, size_eq]
    exact Nat.le_add_right _ _
  · rcases mended with forsaken | ⟨missing, rfl, connective⟩
    · exact .inl forsaken
    · exact .inr ⟨missing, rfl, connective⟩

/-- The `!` behind the group ends at byte five, since `é` takes two, and nothing that follows can make
    up for the missing connective. -/
theorem Query.position_of_refused_mark :
    Query.parse {} "(é)!b" = .error (.malformed (.missingConnective 5)) ∧
      ∃ seen rest, "(é)!b" = seen ++ rest ∧ seen.utf8ByteSize = 5 ∧ Forsaken {} seen := by
  have refused : Query.parse {} "(é)!b" = .error (.malformed (.missingConnective 5)) := by rfl
  obtain ⟨-, -, -, seen, rest, split, size, mended⟩ := position_of_refused refused rfl
  rcases mended with forsaken | ⟨missing, -, -⟩
  · exact ⟨refused, seen, rest, split, size, forsaken⟩
  · cases missing

end FilterQuery
