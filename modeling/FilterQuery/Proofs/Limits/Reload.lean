import FilterQuery.Limits.Stored
import FilterQuery.Proofs.Toml.Assignments
import Mathlib.Algebra.Ring.Nat

/-!
# Limits in a settings file and back

Limits are stored through a codec for TOML, of which no more is used here than its laws:

* `write?_of_fits`, `write?_of_not_fits` -- below 2^63 the limits are written as decimal numbers, and
  above they are refused;
* `ofTomlBy_document`, `loadBy_document` -- from their decimal numbers limits are read as they were,
  whatever the defaults for missing keys are;
* `reload_of_save` -- so limits come back from the file that they were saved to, and where they are
  refused nothing is written.
-/

namespace FilterQuery.Limits

/-! ## 1. The document of limits -/

/-- The lines of limits. -/
def lines (limits : Limits) : Entries (List Char) :=
  limits.fields.map fun field => (field.1, Nat.toDigits 10 field.2)

/-- The text of limits. -/
def document (limits : Limits) : String :=
  String.ofList (Toml.numeralLines limits.lines)

theorem bare_fields (limits : Limits) : ∀ field ∈ limits.fields, Toml.IsBareKey field.1 := by
  have keys : ∀ key ∈ ["max_depth", "max_length"], Toml.IsBareKey key := by decide
  exact fun field there => keys field.1 (List.mem_map_of_mem there)

theorem distinct_fields (limits : Limits) : (limits.fields.map Prod.fst).Nodup := by
  have keys : ["max_depth", "max_length"].Nodup := by decide
  exact keys

/-- The largest limit that TOML can hold. -/
theorem le_maxValue_iff {n : Nat} : n ≤ Int64.maxValue.toInt ↔ n ≤ 2 ^ 63 - 1 := by
  rw [Int64.toInt_maxValue]
  omega

theorem fields_fit_iff {limits : Limits} :
    (∀ field ∈ limits.fields, field.2 ≤ Int64.maxValue.toInt) ↔
      limits.maxDepth ≤ 2 ^ 63 - 1 ∧ limits.maxLength ≤ 2 ^ 63 - 1 := by
  simp only [fields, List.forall_mem_cons, le_maxValue_iff, List.not_mem_nil, false_implies,
    implies_true, and_true]

/-- A number is found under its key, whatever the default is. -/
theorem stored?_integer {key : String} {standard n : Nat} {m : Int64} {entries : Entries Toml}
    (found : entries.get? key = some (.integer m)) (value : m.toInt = n) :
    stored? key standard entries = some n := by
  unfold stored?
  rw [found]
  simp [value]

/-! ## 2. Reading and writing -/

section Codec

variable {codec : Toml.Codec} (lawful : codec.Lawful) {limits : Limits}

include lawful

/-- **Limits are read from their decimal numbers as they were.** -/
theorem ofTomlBy_document
    (fits : limits.maxDepth ≤ 2 ^ 63 - 1 ∧ limits.maxLength ≤ 2 ^ 63 - 1) :
    ofTomlBy codec limits.document = .ok limits := by
  obtain ⟨entries, read, found⟩ := lawful.reads limits.lines
    (List.forall_mem_map.mpr limits.bare_fields) limits.distinct_fields
    (List.forall_mem_map.mpr fun field _ => Toml.isNumeral_toDigits field.2)
    (List.forall_mem_map.mpr fun field there => by
      rw [Nat.ofDigitChars_ten_toDigits]
      exact fields_fit_iff.mpr fits field there)
  have stored {key : String} {standard n : Nat} (there : (key, n) ∈ limits.fields) :
      stored? key standard entries = some n := by
    obtain ⟨m, entry, integer⟩ := found _ (List.mem_map_of_mem there)
    rw [Nat.ofDigitChars_ten_toDigits] at integer
    exact stored?_integer entry integer
  have depth_read : stored? "max_depth" (default : Limits).maxDepth entries =
      some limits.maxDepth := stored (by simp [fields])
  have length_read : stored? "max_length" (default : Limits).maxLength entries =
      some limits.maxLength := stored (by simp [fields])
  unfold ofTomlBy document
  rw [read, Option.bind_some]
  unfold ofEntries?
  rw [depth_read, length_read]
  rfl

/-- The file that holds the text of limits is loaded as these limits. -/
theorem loadBy_document
    (fits : limits.maxDepth ≤ 2 ^ 63 - 1 ∧ limits.maxLength ≤ 2 ^ 63 - 1) :
    loadBy codec (some (.file limits.document.toUTF8)) none = .ok limits := by
  have text : String.fromUTF8? limits.document.toUTF8 = some limits.document :=
    dif_pos limits.document.isValidUTF8
  have content : (Source.file limits.document.toUTF8).read = .ok limits.document := by
    simp only [Source.read, text]
  have loaded : (Source.file limits.document.toUTF8).read >>= ofTomlBy codec = .ok limits := by
    rw [content]
    exact ofTomlBy_document lawful fits
  unfold loadBy
  simp only [loaded]
  rfl

theorem write?_of_fits
    (fits : limits.maxDepth ≤ 2 ^ 63 - 1 ∧ limits.maxLength ≤ 2 ^ 63 - 1) :
    codec.write? limits.fields = some limits.document :=
  lawful.writes limits.fields limits.bare_fields limits.distinct_fields (fields_fit_iff.mpr fits)

/-- One limit that does not fit is enough for a refusal. -/
theorem write?_of_not_fits (unsigned : limits.maxDepth < 2 ^ 64 ∧ limits.maxLength < 2 ^ 64)
    (large : ¬ (limits.maxDepth ≤ 2 ^ 63 - 1 ∧ limits.maxLength ≤ 2 ^ 63 - 1)) :
    codec.write? limits.fields = none := by
  refine lawful.refuses limits.fields ?_ ?_
  · simpa [fields, UInt64.size] using unsigned
  · rw [← fields_fit_iff] at large
    refine Classical.byContradiction fun all_small => large fun field there => ?_
    exact Int.not_lt.mp fun above => all_small ⟨field, there, above⟩

end Codec

/-- **Saved limits come back as they were.** Where both can be held, any way of writing is given one
    text, and from it they are read; where one cannot, the refusal comes before the writing, and what
    the writing could change is as it was. -/
theorem reload_of_save {codec : Toml.Codec} (lawful : codec.Lawful) (limits : Limits)
    (unsigned : limits.maxDepth < 2 ^ 64 ∧ limits.maxLength < 2 ^ 64) :
    (limits.maxDepth ≤ 2 ^ 63 - 1 ∧ limits.maxLength ≤ 2 ^ 63 - 1 →
      ∃ text, ofTomlBy codec text = .ok limits ∧
        loadBy codec (some (.file text.toUTF8)) none = .ok limits ∧
        (∀ target : Target, saveBy codec limits target.write = target.write text) ∧
        ∀ {Disk : Type} (write : String → ExceptT Error (StateM Disk) Unit),
          saveBy codec limits write = write text) ∧
    (¬ (limits.maxDepth ≤ 2 ^ 63 - 1 ∧ limits.maxLength ≤ 2 ^ 63 - 1) →
      (∀ target : Target,
        saveBy codec limits target.write = .error (.settings .unwritableLimits)) ∧
      ∀ {Disk : Type} (write : String → ExceptT Error (StateM Disk) Unit) (disk : Disk),
        (saveBy codec limits write).run disk = (.error (.settings .unwritableLimits), disk)) := by
  constructor
  · intro fits
    have written := write?_of_fits lawful fits
    refine ⟨limits.document, ofTomlBy_document lawful fits, loadBy_document lawful fits,
      fun target => ?_, fun write => ?_⟩
    · rw [saveBy, written]
    · rw [saveBy, written]
  · intro large
    have refused := write?_of_not_fits lawful unsigned large
    refine ⟨fun target => ?_, fun write disk => ?_⟩
    · rw [saveBy, refused]
      rfl
    · rw [saveBy, refused]
      rfl

/-- At the edge of what a settings file holds, with the codec of this library: the largest nesting
limit comes back, and with one more nothing is written over what was there. -/
theorem reload_of_save_edge :
    (∃ text, save { maxDepth := 9223372036854775807, maxLength := 0 } .writable = .ok text ∧
      ofToml text = .ok { maxDepth := 9223372036854775807, maxLength := 0 }) ∧
    (saveBy .builtin { maxDepth := 9223372036854775808, maxLength := 0 }
      (fun text => (set text : ExceptT Error (StateM String) Unit))).run "before" =
        (.error (.settings .unwritableLimits), "before") := by
  obtain ⟨text, back, -, saved, -⟩ := (reload_of_save Toml.Codec.lawful_builtin
    { maxDepth := 9223372036854775807, maxLength := 0 } (by decide)).1 (by decide)
  have refused := (reload_of_save Toml.Codec.lawful_builtin
    { maxDepth := 9223372036854775808, maxLength := 0 } (by decide)).2 (by decide)
  exact ⟨⟨text, saved .writable, back⟩, refused.2 _ "before"⟩

end FilterQuery.Limits
