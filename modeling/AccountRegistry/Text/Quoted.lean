import AccountRegistry.Text.Digits
import AccountRegistry.Text.Unprintable

set_option autoImplicit false

/-!
# Quoted text

A text between double quotes. A quote, a backslash and the usual controls are
written with a backslash, any other character that would not be seen as `\u` and
its code point in curly brackets, in the fewest lower-case digits, and all else
as it is. A single quote is written as it is.
-/
namespace AccountRegistry.Text.Quoted

def hexEscape (c : Char) : List Char :=
  ['\\', 'u', '\x7b'] ++ Digits.write 16 c.toNat ++ ['\x7d']

def escape (c : Char) : List Char :=
  match c with
  | '"' => ['\\', '"']
  | '\\' => ['\\', '\\']
  | '\n' => ['\\', 'n']
  | '\r' => ['\\', 'r']
  | '\t' => ['\\', 't']
  | '\x00' => ['\\', '0']
  | c => if isUnprintable c then hexEscape c else [c]

def quoteChars (cs : List Char) : List Char :=
  '"' :: (cs.flatMap escape ++ ['"'])

end AccountRegistry.Text.Quoted

namespace AccountRegistry.Text

def quote (s : String) : String := String.ofList (Quoted.quoteChars s.toList)

def describe (name : String) (fields : List (String × String)) : String :=
  name ++ " \x7b " ++ ", ".intercalate (fields.map fun f => f.1 ++ ": " ++ f.2) ++ " \x7d"

end AccountRegistry.Text
