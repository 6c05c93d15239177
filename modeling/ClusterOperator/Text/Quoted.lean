import ClusterOperator.Text.Hidden

/-!
# Quoted text

Messages that show a text taken from elsewhere put it between double quotes. The quote and the
backslash get a backslash in front, the usual controls their letters, and every other character
that would not be visible on its own is shown by its code point in lower-case hexadecimal between
braces. A single quote stays as it is.

## Main definitions

* `Text.escape`: what stands for one character.
* `Text.quoted`: the text between quotes.
-/

namespace ClusterOperator.Text

/-- What stands for a character inside double quotes. -/
def escape (c : Char) : List Char :=
  match c with
  | '"' => ['\\', '"']
  | '\\' => ['\\', '\\']
  | '\n' => ['\\', 'n']
  | '\r' => ['\\', 'r']
  | '\t' => ['\\', 't']
  | '\x00' => ['\\', '0']
  | c =>
    if isHidden c then ['\\', 'u', '\x7b'] ++ Nat.toDigits 16 c.toNat ++ ['\x7d'] else [c]

/-- A text between double quotes, each character by its escape. -/
def quoted (s : String) : String :=
  String.ofList ('"' :: s.toList.flatMap escape ++ ['"'])

end ClusterOperator.Text
