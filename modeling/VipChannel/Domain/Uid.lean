/-
  VipChannel.Domain.Uid

  Normalising an exchange UID typed into a chat (domain/uid.py).
-/
import VipChannel.Lib.Text

namespace VipChannel

open Lib

/-- `str.translate(_TRANSLATION)` on one character: Persian and Arabic-Indic digits
    become ASCII ones. -/
def foldDigit (c : Char) : Char :=
  let n := c.toNat
  if 0x6F0 ≤ n ∧ n ≤ 0x6F9 then Char.ofNat (n - 0x6F0 + 0x30)
  else if 0x660 ≤ n ∧ n ≤ 0x669 then Char.ofNat (n - 0x660 + 0x30)
  else c

/-- What `[\s,٬،_-]` matches. -/
def isSeparator (c : Char) : Bool :=
  isSpace c || c == ',' || c == '٬' || c == '،' || c == '_' || c == '-'

/-- Strip whitespace and separators, fold Persian and Arabic digits to ASCII. -/
def normalizeUid (raw : String) : String :=
  String.ofList (strip ((raw.toList.map foldDigit).filter fun c => !isSeparator c))

/-- `re.match(r"^\d{9}$", candidate)`: nine digits of any script, and `$` also allows
    one final newline. -/
def isValidBitunixUid (candidate : String) : Bool :=
  let s := candidate.toList
  (s.length == 9 && s.all isDecimalDigit) ||
    (s.length == 10 && s.getLast? == some '\n' && s.dropLast.all isDecimalDigit)

-- Unfolding them on an open text gets nowhere, slowly.
attribute [irreducible] normalizeUid isValidBitunixUid

example : normalizeUid "۱۲۳ ۴۵۶-789" = "123456789" := by decide +kernel
example : isValidBitunixUid "12345" = false := by decide +kernel

end VipChannel
