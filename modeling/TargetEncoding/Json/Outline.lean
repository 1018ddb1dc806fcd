import TargetEncoding.Json.Numeral
import TargetEncoding.Json.StringLiteral

/-! # Outlines of JSON texts

The outline of a text shows where its values stand, before anyone has said what they should be.  It
is made for every text, also for one that breaks off or is malformed, and holds all of the text up
to that place.  Numbers and strings are kept as the text from where they begin: how they are read is
left to whoever wants them, and what nobody wants is merely passed over.

A reader that goes through an outline in order meets every problem of the text, of its notation or
of its content, in the order of the text. -/

namespace TargetEncoding.Json

/-- A value in a JSON text. -/
inductive Outline where
  /-- There is no value here. -/
  | absent (f : Fault)
  | null
  | boolean (b : Bool)
  /-- A number, and all that follows it. -/
  | number (source : List Char)
  /-- A string from behind its opening quote, and all that follows it. -/
  | string (source : List Char)
  /-- The items, and the fault that ends them if it is not their bracket. -/
  | array (items : List Outline) (broken : Option Fault)
  /-- The members, each with its key from behind the opening quote and all that follows, and the
  fault that ends them if it is not their brace. -/
  | object (members : List (List Char × Outline)) (broken : Option Fault)

/-- Where a text goes on behind something that was read, or the fault that it ends in. -/
abbrev Continuation := Except Fault (List Char)

/-- The fault that a text ends in. -/
def Continuation.broken : Continuation → Option Fault
  | .ok _ => none
  | .error f => some f

/-- The characters that may stand between any two parts of a text. -/
def isInsignificant (c : Char) : Bool :=
  c = ' ' || c = '\n' || c = '\t' || c = '\r'

/-- The text behind the insignificant characters in front. -/
def skipBlanks (cs : List Char) : List Char := cs.dropWhile isInsignificant

/-- Passes over the characters of a word. -/
def passWord : List Char → List Char → Continuation
  | [], cs => .ok cs
  | _ :: _, [] => .error .unexpectedEnd
  | w :: ws, c :: cs => if w = c then passWord ws cs else .error .malformed

/-- The value written by a word, given where the text goes on behind it. -/
def Outline.ofWord (value : Outline) (after : Continuation) : Outline × Continuation :=
  match after with
  | .ok _ => (value, after)
  | .error f => (.absent f, after)

/-- The literal words. -/
def Outline.word (c : Char) (cs : List Char) : Outline × Continuation :=
  if c = 'n' then ofWord .null (passWord ['u', 'l', 'l'] cs)
  else if c = 't' then ofWord (.boolean true) (passWord ['r', 'u', 'e'] cs)
  else if c = 'f' then ofWord (.boolean false) (passWord ['a', 'l', 's', 'e'] cs)
  else (.absent .malformed, .error .malformed)

mutual

/-- The value in front of a text. -/
def Outline.value : Nat → List Char → Outline × Continuation
  | 0, _ => (.absent .unexpectedEnd, .error .unexpectedEnd)
  | depth + 1, cs =>
    match skipBlanks cs with
    | [] => (.absent .unexpectedEnd, .error .unexpectedEnd)
    | c :: rest =>
      if c = '"' then (.string rest, StringLiteral.pass rest)
      else if c = '[' then
        let (items, after) := Outline.firstItem depth rest
        (.array items after.broken, after)
      else if c = '{' then
        let (members, after) := Outline.firstMember depth rest
        (.object members after.broken, after)
      else if c = '-' || c.isDigit then (.number (c :: rest), Numeral.pass (c :: rest))
      else Outline.word c rest

/-- The items behind an opening bracket. -/
def Outline.firstItem : Nat → List Char → List Outline × Continuation
  | 0, _ => ([], .error .unexpectedEnd)
  | depth + 1, cs =>
    match skipBlanks cs with
    | [] => ([], .error .unexpectedEnd)
    | c :: rest => if c = ']' then ([], .ok rest) else Outline.items depth (c :: rest)

/-- The items from here on, of which there must be one. -/
def Outline.items : Nat → List Char → List Outline × Continuation
  | 0, _ => ([], .error .unexpectedEnd)
  | depth + 1, cs =>
    match Outline.value depth cs with
    | (item, .error f) => ([item], .error f)
    | (item, .ok rest) =>
      match skipBlanks rest with
      | [] => ([item], .error .unexpectedEnd)
      | c :: rest =>
        if c = ']' then ([item], .ok rest)
        else if c = ',' then
          let (items, after) := Outline.items depth rest
          (item :: items, after)
        else ([item], .error .malformed)

/-- The members behind an opening brace. -/
def Outline.firstMember : Nat → List Char → List (List Char × Outline) × Continuation
  | 0, _ => ([], .error .unexpectedEnd)
  | depth + 1, cs =>
    match skipBlanks cs with
    | [] => ([], .error .unexpectedEnd)
    | c :: rest => if c = '}' then ([], .ok rest) else Outline.members depth (c :: rest)

/-- The value of a member, behind its key. -/
def Outline.memberValue : Nat → Continuation → Outline × Continuation
  | 0, _ => (.absent .unexpectedEnd, .error .unexpectedEnd)
  | _ + 1, .error f => (.absent f, .error f)
  | depth + 1, .ok cs =>
    match skipBlanks cs with
    | [] => (.absent .unexpectedEnd, .error .unexpectedEnd)
    | c :: rest =>
      if c = ':' then Outline.value depth rest else (.absent .malformed, .error .malformed)

/-- The members from here on, of which there must be one. -/
def Outline.members : Nat → List Char → List (List Char × Outline) × Continuation
  | 0, _ => ([], .error .unexpectedEnd)
  | depth + 1, cs =>
    match skipBlanks cs with
    | [] => ([], .error .unexpectedEnd)
    | c :: key =>
      if c = '"' then
        match Outline.memberValue depth (StringLiteral.pass key) with
        | (value, .error f) => ([(key, value)], .error f)
        | (value, .ok rest) =>
          match skipBlanks rest with
          | [] => ([(key, value)], .error .unexpectedEnd)
          | c :: rest =>
            if c = '}' then ([(key, value)], .ok rest)
            else if c = ',' then
              let (members, after) := Outline.members depth rest
              ((key, value) :: members, after)
            else ([(key, value)], .error .malformed)
      else ([], .error .malformed)

end

/-- A depth that no value of the text exceeds: going down from one function above to the next uses
up a character at least every third time. -/
def Outline.depthFor (cs : List Char) : Nat := 3 * cs.length + 3

/-- The value in front of a text, and where the text goes on behind it. -/
def Outline.ofText (cs : List Char) : Outline × Continuation :=
  Outline.value (Outline.depthFor cs) cs

end TargetEncoding.Json
