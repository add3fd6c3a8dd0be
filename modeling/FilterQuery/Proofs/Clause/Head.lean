import FilterQuery.Proofs.Pieces
import FilterQuery.Segment.Reader

/-!
# The head of a clause

A head is read exactly when it is written from a path and directives that are names: texts that hold
a character, and neither `.` nor `:`. So a head determines its path and its directives, and they
determine the head (`readHead_eq_ok_iff`).
-/

namespace FilterQuery.Segment

/-! ## 1. Names -/

/-- A text that may stand between the marks of a head. -/
structure IsName (name : String) : Prop where
  ne_empty : name ≠ ""
  no_dot : '.' ∉ name.toList
  no_colon : ':' ∉ name.toList

theorem readComponent_eq_ok_iff (piece : List Char) (name : String) :
    readComponent piece = .ok name ↔ piece = name.toList ∧ name ≠ "" := by
  unfold readComponent
  split
  · next empty =>
    subst empty
    constructor
    · intro h
      cases h
    · intro given
      obtain ⟨same, some_char⟩ := given
      exact absurd (String.toList_eq_nil_iff.mp same.symm) some_char
  · next some_char =>
    constructor
    · intro h
      cases h
      refine ⟨String.toList_ofList.symm, fun empty => some_char ?_⟩
      rw [← String.toList_ofList (l := piece), empty, String.toList_empty]
    · intro given
      obtain ⟨rfl, _⟩ := given
      rw [String.ofList_toList]

theorem readDirective_eq_ok_iff (piece : List Char) (name : String) :
    readDirective piece = .ok name ↔ piece = name.toList ∧ (name ≠ "" ∧ '.' ∉ name.toList) := by
  unfold readDirective
  split
  · next dotted =>
    constructor
    · intro h
      cases h
    · intro given
      obtain ⟨rfl, _, plain⟩ := given
      exact absurd dotted plain
  · next plain =>
    have component := readComponent_eq_ok_iff piece name
    unfold readComponent at component
    constructor
    · intro h
      split at h
      · cases h
      · next some_char =>
        rw [if_neg some_char] at component
        obtain ⟨rfl, filled⟩ := component.mp h
        exact ⟨rfl, filled, plain⟩
    · intro given
      obtain ⟨rfl, some_char, _⟩ := given
      have filled : name.toList ≠ [] := fun h => some_char (String.toList_eq_nil_iff.mp h)
      rw [if_neg filled, String.ofList_toList]

/-! ## 2. Writing a head -/

/-- The text of a path. -/
def pathText (path : List String) : List Char :=
  ['.'].intercalate (path.map String.toList)

/-- The text of a head: its path, and every directive behind a `:`. -/
def Head.text (head : Head) : List Char :=
  [':'].intercalate (pathText head.path :: head.directives.map String.toList)

theorem pathText_concat {path : List String} (some_component : path ≠ []) (last : String) :
    pathText (path ++ [last]) = pathText path ++ '.' :: last.toList := by
  unfold pathText
  rw [List.map_append]
  exact intercalate_concat _ (fun h => some_component (List.map_eq_nil_iff.mp h)) _

theorem Head.text_eq (head : Head) :
    head.text = pathText head.path ++ head.directives.flatMap (fun d => ':' :: d.toList) := by
  unfold Head.text
  rw [intercalate_cons, List.flatMap_map]
  rfl

theorem pathText_ne_nil {path : List String} (some_component : path ≠ [])
    (names : ∀ p ∈ path, IsName p) : pathText path ≠ [] := by
  cases path with
  | nil => exact absurd rfl some_component
  | cons first others =>
    obtain ⟨c, chars⟩ := List.exists_mem_of_ne_nil first.toList
      (fun h => (names first List.mem_cons_self).ne_empty (String.toList_eq_nil_iff.mp h))
    have inside : c ∈ pathText (first :: others) :=
      mem_intercalate_of_mem (List.mem_map_of_mem List.mem_cons_self) chars
    exact List.ne_nil_of_mem inside

theorem colon_not_mem_pathText {path : List String} (names : ∀ p ∈ path, IsName p) :
    ':' ∉ pathText path := by
  intro inside
  rcases mem_of_mem_intercalate inside with ⟨_, piece, colon⟩ | dot
  · obtain ⟨name, member, rfl⟩ := List.mem_map.mp piece
    exact (names name member).no_colon colon
  · exact absurd dot (by decide)

/-! ## 3. Reading what is written -/

/-- A path is read piece by piece, and the pieces are its components. -/
theorem readPath_eq_ok_iff (text : List Char) (path : List String) :
    (text.splitOn '.').mapM readComponent = .ok path ↔
      text = pathText path ∧ path ≠ [] ∧ ∀ p ∈ path, p ≠ "" ∧ '.' ∉ p.toList := by
  rw [mapM_eq_ok_iff readComponent_eq_ok_iff]
  constructor
  · intro given
    obtain ⟨cut, filled⟩ := given
    refine ⟨?_, ?_, fun p hp => ⟨filled p hp, ?_⟩⟩
    · unfold pathText
      rw [← cut, List.intercalate_splitOn]
    · intro equal
      subst equal
      exact List.splitOn_ne_nil _ _ cut
    · have piece : p.toList ∈ text.splitOn '.' := by
        rw [cut]
        exact List.mem_map_of_mem hp
      exact not_mem_of_mem_splitOn piece
  · intro given
    obtain ⟨rfl, some_component, filled⟩ := given
    refine ⟨List.splitOn_intercalate '.' ?_ ?_, fun p hp => (filled p hp).1⟩
    · intro piece hp
      obtain ⟨p, member, rfl⟩ := List.mem_map.mp hp
      exact (filled p member).2
    · exact fun h => some_component (List.map_eq_nil_iff.mp h)

/-- What is read as a head is the text of names. -/
theorem text_of_readHead {text : List Char} {head : Head} (h : readHead text = .ok head) :
    text = head.text ∧ head.path ≠ [] ∧ (∀ p ∈ head.path, IsName p) ∧
      ∀ d ∈ head.directives, IsName d := by
  obtain ⟨path, directives⟩ := head
  unfold readHead at h
  split at h
  · cases h
  · cases h
  · next first others _ cut =>
    obtain ⟨path', read_path, h⟩ := bind_eq_ok.mp h
    obtain ⟨directives', read_directives, h⟩ := bind_eq_ok.mp h
    cases h
    obtain ⟨rfl, some_component, components⟩ := (readPath_eq_ok_iff first path).mp read_path
    obtain ⟨rfl, behind⟩ :=
      (mapM_eq_ok_iff readDirective_eq_ok_iff others directives).mp read_directives
    have uncut : ∀ piece ∈ pathText path :: directives.map String.toList, ':' ∉ piece := by
      rw [← cut]
      exact fun _ hp => not_mem_of_mem_splitOn hp
    refine ⟨?_, some_component, fun p hp => ⟨(components p hp).1, (components p hp).2, ?_⟩,
      fun d hd => ⟨(behind d hd).1, (behind d hd).2, ?_⟩⟩
    · unfold Head.text
      rw [← cut, List.intercalate_splitOn]
    · intro colon
      exact uncut _ List.mem_cons_self (mem_intercalate_of_mem (List.mem_map_of_mem hp) colon)
    · exact uncut _ (List.mem_cons_of_mem _ (List.mem_map_of_mem hd))

/-- The text of names is cut into its path and its directives. -/
theorem splitOn_headText {head : Head} (components : ∀ p ∈ head.path, IsName p)
    (behind : ∀ d ∈ head.directives, IsName d) :
    head.text.splitOn ':' = pathText head.path :: head.directives.map String.toList := by
  refine List.splitOn_intercalate ':' ?_ (List.cons_ne_nil _ _)
  rw [List.forall_mem_cons]
  refine ⟨colon_not_mem_pathText components, ?_⟩
  intro piece hp
  obtain ⟨d, member, rfl⟩ := List.mem_map.mp hp
  exact (behind d member).no_colon

/-- The text of names is read as those names. -/
theorem readHead_text {head : Head} (some_component : head.path ≠ [])
    (components : ∀ p ∈ head.path, IsName p) (behind : ∀ d ∈ head.directives, IsName d) :
    readHead head.text = .ok head := by
  have cut := splitOn_headText components behind
  have read_path := (readPath_eq_ok_iff (pathText head.path) head.path).mpr
    ⟨rfl, some_component, fun p hp => ⟨(components p hp).ne_empty, (components p hp).no_dot⟩⟩
  have read_directives := (mapM_eq_ok_iff readDirective_eq_ok_iff _ head.directives).mpr
    ⟨rfl, fun d hd => ⟨(behind d hd).ne_empty, (behind d hd).no_dot⟩⟩
  unfold readHead
  rw [cut]
  split
  · next none_ => cases none_
  · next empty =>
    rw [List.cons.injEq] at empty
    exact absurd empty.1 (pathText_ne_nil some_component components)
  · next same =>
    rw [List.cons.injEq] at same
    obtain ⟨rfl, rfl⟩ := same
    exact bind_eq_ok.mpr ⟨_, read_path, bind_eq_ok.mpr ⟨_, read_directives, rfl⟩⟩

/-- **A head is read exactly when it is the text of names**, and then as those names. -/
theorem readHead_eq_ok_iff (text : List Char) (head : Head) :
    readHead text = .ok head ↔
      text = head.text ∧ head.path ≠ [] ∧ (∀ p ∈ head.path, IsName p) ∧
        ∀ d ∈ head.directives, IsName d := by
  constructor
  · exact text_of_readHead
  · intro given
    obtain ⟨rfl, some_component, components, behind⟩ := given
    exact readHead_text some_component components behind

end FilterQuery.Segment
