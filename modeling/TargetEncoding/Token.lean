import TargetEncoding.Text.Blank

/-! # Tokens

A token is a piece of a text with the offsets at which it starts and stops, counted in characters.
`tokenize` cuts a text at separators, in one pass: its tokens are the maximal runs of other
characters, so no token is empty and two tokens never touch. -/

namespace TargetEncoding

/-- A piece of a text that starts at the character offset `start` and ends before `stop`. -/
structure Token where
  text : String
  start : Nat
  stop : Nat
deriving DecidableEq

namespace Token

/-- The token that begins at `start` and is as long as its text. -/
def startingAt (start : Nat) (text : String) : Token :=
  ⟨text, start, start + text.length⟩

/-- Token and span each begin before the other ends. -/
def overlaps (t : Token) (start stop : Nat) : Bool :=
  t.start < stop && start < t.stop

end Token

/-- How far the reading of a text has come. -/
structure TokenScan where
  /-- The tokens that are complete. -/
  tokens : Array Token
  /-- The characters of the word that is being read, the last one first.  Between words there are
  none. -/
  word : List Char
  /-- Where that word starts. -/
  start : Nat

namespace TokenScan

/-- Nothing is read yet. -/
def init : TokenScan := ⟨#[], [], 0⟩

/-- Completes the word that is being read, if there is one. -/
def flush (scan : TokenScan) : TokenScan :=
  if scan.word.isEmpty then scan
  else
    { scan with
      tokens := scan.tokens.push (.startingAt scan.start (String.ofList scan.word.reverse))
      word := [] }

/-- Reads a character and its offset.  A separator completes the word, and any other character
belongs to it or begins one. -/
def step (isSeparator : Char → Bool) (scan : TokenScan) : Char × Nat → TokenScan
  | (c, offset) =>
    if isSeparator c then scan.flush
    else
      { scan with
        word := c :: scan.word
        start := if scan.word.isEmpty then offset else scan.start }

end TokenScan

/-- Blanks separate tokens, and so do the `extra` characters. -/
def isSeparator (extra : List Char) (c : Char) : Bool :=
  isBlank c || extra.contains c

/-- The maximal runs of characters that are not separators. -/
def tokenize (text : String) (extra : List Char) : List Token :=
  let scan := text.toList.zipIdx.foldl (TokenScan.step (isSeparator extra)) .init
  scan.flush.tokens.toList

end TargetEncoding
