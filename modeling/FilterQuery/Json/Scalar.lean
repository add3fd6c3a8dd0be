import FilterQuery.Json.Number
import FilterQuery.Text.CodePoint

/-!
# Typed values in JSON text

A typed value is written in JSON as a truth value, a number or a string, with white space allowed
around it. Nothing else is a typed value: not `null`, and no array or object.
-/

namespace FilterQuery.Json

/-! ## 1. Strings -/

/-- The character of a one-letter escape. -/
def shortEscape? : Char → Option Char
  | '"' => some '"'
  | '\\' => some '\\'
  | '/' => some '/'
  | 'b' => some '\x08'
  | 'f' => some '\x0c'
  | 'n' => some '\n'
  | 'r' => some '\r'
  | 't' => some '\t'
  | _ => none

/-- The code point of a pair of surrogates. -/
def pairCode (high low : Nat) : Nat :=
  0x10000 + (high - 0xD800) * 0x400 + (low - 0xDC00)

/-- The text of a string, from behind its opening quote to the closing one at the end. -/
def readString? : List Char → Option (List Char)
  | [] => none
  | '"' :: rest => if rest = [] then some [] else none
  | '\\' :: 'u' :: a :: b :: c :: d :: rest =>
    match Text.radixValue? 16 [a, b, c, d] with
    | none => none
    | some code =>
      if 0xD800 ≤ code ∧ code < 0xDC00 then
        match rest with
        | '\\' :: 'u' :: e :: f :: g :: h :: rest =>
          match Text.radixValue? 16 [e, f, g, h] with
          | none => none
          | some low =>
            if 0xDC00 ≤ low ∧ low < 0xE000 then
              (readString? rest).map (Char.ofNat (pairCode code low) :: ·)
            else none
        | _ => none
      else
        match Text.charOf? code with
        | none => none
        | some x => (readString? rest).map (x :: ·)
  | '\\' :: c :: rest =>
    match shortEscape? c with
    | none => none
    | some x => (readString? rest).map (x :: ·)
  | c :: rest => if c.toNat < 0x20 ∨ c = '\\' then none else (readString? rest).map (c :: ·)

/-! ## 2. Values -/

/-- The white space of JSON. -/
def isSpace (c : Char) : Bool :=
  c == ' ' || c == '\t' || c == '\n' || c == '\r'

/-- The typed value that a JSON text writes. -/
def readValue? (text : String) : Option Value :=
  let body := (text.toList.dropWhile isSpace).reverse.dropWhile isSpace |>.reverse
  match body with
  | ['t', 'r', 'u', 'e'] => some (.boolean true)
  | ['f', 'a', 'l', 's', 'e'] => some (.boolean false)
  | '"' :: rest => (readString? rest).map (fun s => .text (String.ofList s))
  | body => readNumber? body

end FilterQuery.Json
