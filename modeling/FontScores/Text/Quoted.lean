import FontScores.Unicode.Display

/-!
# Quoted text in messages

A message shows a text from its input between double quotes, so that its ends can be seen.  Quotes,
backslashes and the usual controls are escaped by a letter, and every other character that would
not be seen as itself by its code in hexadecimal.
-/

namespace FontScores.Text

/-- A character by its code, in lower-case hexadecimal without leading zeros. -/
def codeEscape (c : Char) : List Char :=
  "\\u\x7b".toList ++ Nat.toDigits 16 c.toNat ++ ['\x7d']

def escapeInMessage (c : Char) : List Char :=
  match c with
  | '\x00' => ['\\', '0']
  | '\t' => ['\\', 't']
  | '\n' => ['\\', 'n']
  | '\r' => ['\\', 'r']
  | '"' => ['\\', '"']
  | '\\' => ['\\', '\\']
  | c => if Unicode.isExtender c || Unicode.isShapeless c then codeEscape c else [c]

/-- The text between quotes, with everything escaped that would not be seen. -/
def quoted (text : String) : String :=
  String.ofList ('"' :: text.toList.flatMap escapeInMessage ++ ['"'])

end FontScores.Text
