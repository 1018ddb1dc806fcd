import TargetEncoding.Interpreter
import TargetEncoding.Text.Lowercase

/-! # The word interpreter

It cuts texts at blanks, names of actions also at underscores, and over a vocabulary it adds two
features to each text: which word stands where, and how often each word occurs.  Words are compared
in lower case.

* `Vocabulary.ofWords`  numbers the distinct words in order of first occurrence
* `Vocabulary.tally`    one row per token with a one in the column of its word, and along with it
  a count for each word
* `WordTally.countRow`  the counts as a matrix, in the order of the columns -/

namespace TargetEncoding

/-- The column of each word. -/
abbrev Vocabulary := Std.ExtTreeMap String Nat

namespace Vocabulary

/-- Gives a word the next free column, unless it has one. -/
def addWord (v : Vocabulary) (word : String) : Vocabulary :=
  v.insertIfNew (lowercase word) v.size

/-- Numbers the distinct words, compared in lower case. -/
def ofWords (words : List String) : Vocabulary :=
  words.foldl addWord ∅

/-- The column of a token's word. -/
def columnOf? (v : Vocabulary) (t : Token) : Option Nat :=
  v[lowercase t.text]?

end Vocabulary

/-- What is known of the words of some tokens. -/
structure WordTally where
  /-- Says which word stands where. -/
  words : SparseMatrix
  /-- Says how often the word of a column occurs. -/
  counts : Std.ExtTreeMap Nat Single

namespace Vocabulary

/-- Writes the word of a token into its row and counts it, if it is known. -/
def tallyToken (v : Vocabulary) (tally : WordTally) : Token × Nat → WordTally
  | (t, row) =>
    match v.columnOf? t with
    | none => tally
    | some column =>
      { words := tally.words.set row column 1
        counts := tally.counts.insert column (tally.counts.getD column 0 + 1) }

/-- Goes through the tokens, which have a row each. -/
def tally (v : Vocabulary) (tokens : List Token) : WordTally :=
  tokens.zipIdx.foldl v.tallyToken ⟨.empty tokens.length v.size, ∅⟩

end Vocabulary

/-- The counts as entries of a single row. -/
def WordTally.countEntries (tally : WordTally) : List Entry :=
  tally.counts.toList.map fun (column, count) => ⟨0, column, count⟩

/-- The row that holds the counts, in ascending order of the columns. -/
def WordTally.countRow (tally : WordTally) (width : Nat) : SparseMatrix :=
  (SparseMatrix.empty 1 width).setAll tally.countEntries

/-- An interpreter that knows the words of a vocabulary. -/
structure WordInterpreter where
  vocabulary : Vocabulary

namespace WordInterpreter

/-- The interpreter that adds no features. -/
def plain : WordInterpreter := ⟨∅⟩

/-- The interpreter over the given words. -/
def ofWords (words : List String) : WordInterpreter := ⟨.ofWords words⟩

/-- The origin of the features. -/
def origin : String := "whitespace_bow"

/-- What separates words besides blanks. -/
def extraSeparators : Attribute → List Char
  | .actionName => ['_']
  | _ => []

/-- The features of an attribute with the given tokens: none without words to look for, or without
tokens to look at. -/
def features (w : WordInterpreter) (attr : Attribute) (tokens : List Token) : List Feature :=
  if w.vocabulary.isEmpty || tokens.isEmpty then []
  else
    let tally := w.vocabulary.tally tokens
    [⟨.sequence, attr, origin, .sparse tally.words⟩,
      ⟨.sentence, attr, origin, .sparse (tally.countRow w.vocabulary.size)⟩]

/-- Reads the text of an attribute, if there is one. -/
def readAttribute (w : WordInterpreter) (m : Message) (attr : Attribute) : Message :=
  match m.texts.get attr with
  | none => m
  | some text =>
    let tokens := tokenize text (extraSeparators attr)
    { m.setTokens attr tokens with features := m.features ++ w.features attr tokens }

/-- Reads all attributes, after a look at the mentions. -/
def interpret (w : WordInterpreter) : Interpreter := fun m => do
  m.checkMentions
  if m.attributes.isEmpty then return none
  return some (Attribute.all.foldl w.readAttribute m)

end WordInterpreter

end TargetEncoding
