import TargetEncoding.Text.CaseRun
import TargetEncoding.Text.CaseIgnorable
import TargetEncoding.Text.Cased

/-! # Lower case

Full lower-casing of a text.  It goes character by character, with two exceptions: the dotted
capital I becomes two characters, and a capital sigma becomes the final small sigma at the end of a
word.  Where a word ends is decided by the nearest characters on both sides that are not
case-ignorable. -/

namespace TargetEncoding

/-- The lower-case form of a character that stands alone. -/
def lowerChar (c : Char) : List Char :=
  if c = '\u0130' then ['i', '\u0307']
  else [(CaseRun.all.findSome? (·.lower? c)).getD c]

/-- Behind any case-ignorable characters there is a cased one. -/
def meetsCased (cs : List Char) : Bool :=
  (cs.dropWhile isCaseIgnorable).head?.any isCased

/-- The small sigma between `before` (read backwards) and `after`: a cased character before it and
none after it make it final. -/
def lowerSigma (before after : List Char) : Char :=
  if meetsCased before && !meetsCased after then 'ς' else 'σ'

/-- Lower-cases `cs`, which follows the characters `before` (read backwards). -/
def lowerFrom (before : List Char) : List Char → List Char
  | [] => []
  | c :: after =>
    (if c = 'Σ' then [lowerSigma before after] else lowerChar c) ++ lowerFrom (c :: before) after

/-- The text in lower case. -/
def lowercase (s : String) : String :=
  String.ofList (lowerFrom [] s.toList)

end TargetEncoding
