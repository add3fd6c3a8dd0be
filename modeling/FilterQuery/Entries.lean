/-!
# Entries by name

Several kinds of data are lists of named entries: the members of a JSON object, the keys of a TOML
table, the attributes of a field table. An entry is found by its name.

* `get?` -- the first entry of a name counts;
* `only?` -- a name that is repeated counts as little as one that is not there;
* `put` keeps names apart: it replaces the entry of a name, or adds one at the end.
-/

namespace FilterQuery

/-- Things by name, in an order. -/
abbrev Entries (α : Type) := List (String × α)

namespace Entries

variable {α : Type}

/-- The first entry of a name. -/
def get? (name : String) : Entries α → Option α
  | [] => none
  | (key, value) :: rest => if key = name then some value else get? name rest

/-- The entry of a name that no other entry has. -/
def only? (name : String) (entries : Entries α) : Option α :=
  match entries.filter (fun entry => entry.1 == name) with
  | [(_, value)] => some value
  | _ => none

/-- The entries with a name given to a thing. -/
def put (name : String) (value : α) : Entries α → Entries α
  | [] => [(name, value)]
  | (key, old) :: rest =>
    if key = name then (name, value) :: rest else (key, old) :: put name value rest

/-- **A look-up sees the thing that was put last.** -/
@[simp] theorem get?_put (name other : String) (value : α) : ∀ entries : Entries α,
    get? other (put name value entries) = if name = other then some value else get? other entries
  | [] => by simp [put, get?]
  | (key, old) :: rest => by
    unfold put
    split
    · next same =>
      subst same
      by_cases h : key = other <;> simp [get?, h]
    · next differs =>
      by_cases h : key = other
      · subst h
        simp [get?, Ne.symm differs]
      · simp [get?, h, get?_put name other value rest]

/-- Where every name stands once, each entry is found. -/
theorem get?_of_mem {name : String} {value : α} {entries : Entries α}
    (distinct : (entries.map Prod.fst).Nodup) (there : (name, value) ∈ entries) :
    get? name entries = some value := by
  induction entries with
  | nil => cases there
  | cons entry rest ih =>
    obtain ⟨key, other⟩ := entry
    obtain ⟨first, distinct⟩ := List.nodup_cons.mp distinct
    rcases List.mem_cons.mp there with same | there
    · cases same
      exact if_pos rfl
    · have differs : key ≠ name := by
        rintro rfl
        exact first (List.mem_map.mpr ⟨(key, value), there, rfl⟩)
      rw [get?, if_neg differs]
      exact ih distinct there

/-- Something that is found is in the list. -/
theorem mem_of_only? {name : String} {value : α} {entries : Entries α}
    (found : entries.only? name = some value) : (name, value) ∈ entries := by
  unfold only? at found
  split at found
  · next key _ alone =>
    cases found
    have member : (key, value) ∈ entries.filter (fun entry => entry.1 == name) := by
      rw [alone]
      exact List.mem_cons_self
    obtain ⟨there, same⟩ := List.mem_filter.mp member
    rwa [← eq_of_beq same]
  · cases found

theorem get?_eq_none_iff {name : String} (xs : Entries α) :
    get? name xs = none ↔ name ∉ xs.map Prod.fst := by
  induction xs with
  | nil => simp [get?]
  | cons entry xs ih =>
    obtain ⟨key, value⟩ := entry
    rw [get?, List.map_cons, List.mem_cons, not_or]
    split
    · next same => simp [same]
    · next other => simp [ih, Ne.symm other]

end Entries

end FilterQuery
