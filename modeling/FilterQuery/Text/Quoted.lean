import FilterQuery.Text.Visible

/-!
# Quoted text

A message shows the text it speaks of between double quotes. Inside them

* `"` and `\` follow a backslash;
* NUL, tab, line feed and carriage return have the short escapes `\0`, `\t`, `\n`, `\r`;
* any other character that does not show (`isVisible`) is written by its code point in
  hexadecimal, in lower case and without leading zeros, as in `\u{200b}`;
* all else, the apostrophe included, stands for itself.
-/

namespace FilterQuery.Text

/-- One character between the quotes. -/
def escape (c : Char) : List Char :=
  match c with
  | '"' => ['\\', '"']
  | '\\' => ['\\', '\\']
  | '\x00' => ['\\', '0']
  | '\t' => ['\\', 't']
  | '\n' => ['\\', 'n']
  | '\r' => ['\\', 'r']
  | c => if isVisible c then [c] else ['\\', 'u', '\x7b'] ++ Nat.toDigits 16 c.toNat ++ ['\x7d']

/-- A text between double quotes. -/
def quote (text : String) : String :=
  String.ofList (['"'] ++ text.toList.flatMap escape ++ ['"'])

example : quote "it's \"a\\b\"" = "\"it's \\\"a\\\\b\\\"\"" := by cbv

example : quote "\t\x00\x1b" = "\"\\t\\0\\u\x7b1b\x7d\"" := by cbv

end FilterQuery.Text
