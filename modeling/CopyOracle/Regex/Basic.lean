import CopyOracle.Text.Bytes

/-!
# Regular expressions

A regular expression stands for texts: characters out of sets, one expression after another, one
of two, or one again and again. Groups remember what they stood for, and a place stands for no
text but for where it is.
-/
namespace CopyOracle

/-- A set of bytes, by the bits of a number. -/
structure CharSet where
  /-- The number. -/
  bits : Nat := 0
deriving DecidableEq, Repr

namespace CharSet

/-- Whether a character is in a set. -/
@[inline] def contains (set : CharSet) (c : Char) : Bool := set.bits.testBit c.toNat

/-- The set of one character. -/
def single (c : Char) : CharSet := ⟨1 <<< c.toNat⟩

/-- The set of two sets. -/
def union (left right : CharSet) : CharSet := ⟨left.bits ||| right.bits⟩

/-- The set of all bytes. -/
def full : CharSet := ⟨(1 <<< 256) - 1⟩

/-- The bytes that are not in a set. -/
def complement (set : CharSet) : CharSet := ⟨full.bits - set.bits⟩

/-- The characters from one to another. -/
def range (low high : Nat) : CharSet :=
  if high < low then {} else ⟨((1 <<< (high + 1 - low)) - 1) <<< low⟩

/-- The characters that some property holds of. -/
def ofProperty (test : Char → Bool) : CharSet :=
  ⟨(List.range 256).foldl (fun bits i =>
    if test (Char.ofNat i) then bits ||| (1 <<< i) else bits) 0⟩

/-- The set without a character. -/
def without (set : CharSet) (c : Char) : CharSet :=
  if set.contains c then ⟨set.bits - (1 <<< c.toNat)⟩ else set

/-- The set with the letters of both cases for each letter in it. -/
def foldCase (set : CharSet) : CharSet :=
  ofProperty fun c => set.contains c || set.contains c.toUpper || set.contains c.toLower

/-- Whether a character is part of a word. -/
def isWordChar (c : Char) : Bool := c.isAlphanum || c = '_'

/-- The characters of words. -/
def word : CharSet := ofProperty isWordChar

/-- Whether a character is white space. -/
def isSpace (c : Char) : Bool := c = ' ' || ('\t' ≤ c && c ≤ '\r')

/-- The white space. -/
def space : CharSet := ofProperty isSpace

/-- The set of a named class of characters. -/
def named? (name : ByteText) : Option CharSet :=
  match String.ofList name with
  | "alpha" => some (ofProperty Char.isAlpha)
  | "digit" => some (ofProperty Char.isDigit)
  | "alnum" => some (ofProperty Char.isAlphanum)
  | "upper" => some (ofProperty Char.isUpper)
  | "lower" => some (ofProperty Char.isLower)
  | "space" => some space
  | "blank" => some (ofProperty fun c => c = ' ' || c = '\t')
  | "punct" => some (ofProperty fun c => '!' ≤ c && c ≤ '~' && !c.isAlphanum)
  | "print" => some (range 32 126)
  | "graph" => some (range 33 126)
  | "cntrl" => some ((range 0 31).union (range 127 127))
  | "xdigit" => some (ofProperty fun c =>
      c.isDigit || ('a' ≤ c && c ≤ 'f') || ('A' ≤ c && c ≤ 'F'))
  | _ => none

end CharSet

/-- A place in a text. -/
inductive TextPlace where
  /-- The beginning of a line. -/
  | lineStart
  /-- The end of a line. -/
  | lineEnd
  /-- The beginning of the text. -/
  | textStart
  /-- The end of the text. -/
  | textEnd
  /-- An edge of a word. -/
  | wordEdge
  /-- Anywhere but at an edge of a word. -/
  | noWordEdge
  /-- The beginning of a word. -/
  | wordStart
  /-- The end of a word. -/
  | wordEnd
deriving DecidableEq, Repr

/-- A regular expression. -/
inductive Regex where
  /-- The empty text. -/
  | empty
  /-- A character of a set. -/
  | among (set : CharSet)
  /-- A place. -/
  | anchor (place : TextPlace)
  /-- What an expression stands for, remembered under a number. -/
  | group (number : Nat) (body : Regex)
  /-- The text that is remembered under a number. -/
  | same (number : Nat)
  /-- One after the other. -/
  | both (first second : Regex)
  /-- One of two. -/
  | either (first second : Regex)
  /-- An expression so many times, up to a number if there is one. -/
  | repeated (least : Nat) (most : Option Nat) (body : Regex)
deriving Repr

namespace Regex

/-- How many groups an expression has. -/
def groups : Regex → Nat
  | .group _ body => body.groups + 1
  | .both first second | .either first second => first.groups + second.groups
  | .repeated _ _ body => body.groups
  | _ => 0

/-- Whether an expression refers to the text of a group. -/
def refersBack : Regex → Bool
  | .same _ => true
  | .group _ body | .repeated _ _ body => body.refersBack
  | .both first second | .either first second => first.refersBack || second.refersBack
  | _ => false

/-- The expression in which letters stand for those of both cases. -/
def foldCase : Regex → Regex
  | .among set => .among set.foldCase
  | .group number body => .group number body.foldCase
  | .both first second => .both first.foldCase second.foldCase
  | .either first second => .either first.foldCase second.foldCase
  | .repeated least most body => .repeated least most body.foldCase
  | other => other

/-- The characters that a text of an expression can begin with, and whether it can be empty. -/
def front : Regex → CharSet × Bool
  | .empty | .anchor _ => ({}, true)
  | .same _ => (.full, true)
  | .among set => (set, false)
  | .group _ body => body.front
  | .both first second =>
    let (start, canBeEmpty) := first.front
    if canBeEmpty then
      let (later, isEmpty) := second.front
      (start.union later, isEmpty)
    else (start, false)
  | .either first second =>
    let (left, leftEmpty) := first.front
    let (right, rightEmpty) := second.front
    (left.union right, leftEmpty || rightEmpty)
  | .repeated least _ body =>
    let (start, canBeEmpty) := body.front
    (start, canBeEmpty || least = 0)

/-- A text as an expression that stands for it alone. -/
def ofText (text : ByteText) : Regex :=
  text.foldr (fun c rest => .both (.among (.single c)) rest) .empty

end Regex

end CopyOracle
