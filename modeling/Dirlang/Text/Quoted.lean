import Dirlang.Text.Extending
import Dirlang.Text.Unprintable

/-!
Quoted text: a string between double quotes, in which every character is readable.

A quote and a backslash are written with a backslash before them, four control characters have
names, and a character that would not show, or would join the one before it, is written as its
code point. Everything else stands for itself.
-/

namespace Dirlang.Text

/-- The code point in lower-case hexadecimal, between braces. -/
def codePoint (c : Char) : List Char := '\\' :: 'u' :: '\x7b' :: Nat.toDigits 16 c.toNat ++ ['\x7d']

/-- Characters of the ASCII alphabet that stand for themselves. -/
def isPlain (c : Char) : Bool := ' ' ≤ c && c ≤ '~' && c ≠ '"' && c ≠ '\\'

def escape (c : Char) : List Char :=
  if isPlain c then [c]
  else match c with
    | '"' => ['\\', '"']
    | '\\' => ['\\', '\\']
    | '\n' => ['\\', 'n']
    | '\r' => ['\\', 'r']
    | '\t' => ['\\', 't']
    | '\x00' => ['\\', '0']
    | _ => if isExtending c || isUnprintable c then codePoint c else [c]

def quoted (s : String) : String := String.ofList ('"' :: s.toList.flatMap escape ++ ['"'])

end Dirlang.Text
