import CopyOracle.Text.Bytes

/-!
# Patterns

A pattern stands for many texts: a star for any text, a question mark for any character, and a
list in brackets for the characters in it or, negated, for all others. Characters that were quoted
stand for themselves.
-/
namespace CopyOracle.Shell

/-- A character of an expanded word, and whether it may be part of a pattern. -/
structure Glyph where
  /-- The character. -/
  char : Char
  /-- Whether it is unquoted. -/
  isActive : Bool
deriving DecidableEq, Repr

/-- The text of glyphs. -/
def glyphText (glyphs : List Glyph) : ByteText := glyphs.map Glyph.char

/-- The part of a pattern that stands for one stretch of text. -/
inductive PatternPart where
  /-- Any text. -/
  | anyText
  /-- Any character. -/
  | anyChar
  /-- One character. -/
  | exactly (char : Char)
  /-- A character within one of the ranges, or within none. -/
  | among (negated : Bool) (ranges : List (Char × Char))
deriving DecidableEq, Repr

/-- Whether a character fits a part of a pattern. -/
def PatternPart.fits (part : PatternPart) (c : Char) : Bool :=
  match part with
  | .anyText | .anyChar => true
  | .exactly char => c = char
  | .among negated ranges => (ranges.any fun (low, high) => low ≤ c && c ≤ high) != negated

/-- A pattern. -/
abbrev Pattern := List PatternPart

namespace Pattern

/-- The ranges of a named class of characters, if there is such a class. -/
def namedClass? (name : ByteText) : Option (List (Char × Char)) :=
  match String.ofList name with
  | "digit" => some [('0', '9')]
  | "alpha" => some [('a', 'z'), ('A', 'Z')]
  | "alnum" => some [('0', '9'), ('a', 'z'), ('A', 'Z')]
  | "upper" => some [('A', 'Z')]
  | "lower" => some [('a', 'z')]
  | "space" => some [(' ', ' '), ('\t', '\r')]
  | "blank" => some [(' ', ' '), ('\t', '\t')]
  | "punct" => some [('!', '/'), (':', '@'), ('[', Char.ofNat 96), ('\x7b', '~')]
  | "xdigit" => some [('0', '9'), ('a', 'f'), ('A', 'F')]
  | "graph" => some [('!', '~')]
  | "print" => some [(' ', '~')]
  | "cntrl" => some [(Char.ofNat 0, Char.ofNat 31), (Char.ofNat 127, Char.ofNat 127)]
  | _ => none

/-- A named class of characters after its opening bracket, and what follows it. -/
def classAfter? (rest : List Glyph) : Option (List (Char × Char) × List Glyph) :=
  match rest with
  | colon :: rest =>
    if colon.char = ':' then
      let name := (glyphText rest).takeWhile Char.isAlpha
      match glyphText (rest.drop name.length) with
      | ':' :: ']' :: _ =>
        (namedClass? name).map fun found => (found, rest.drop (name.length + 2))
      | _ => none
    else none
  | [] => none

/-- The character at the front of a list of characters, which a backslash may protect. -/
def member (glyph : Glyph) (rest : List Glyph) : Char × List Glyph :=
  match rest with
  | next :: later =>
    if glyph.char = '\\' && glyph.isActive then (next.char, later) else (glyph.char, rest)
  | [] => (glyph.char, rest)

/-- The ranges listed up to a closing bracket, and what follows it. -/
def ranges : (fuel : Nat) → (isFirst : Bool) → List Glyph →
    Option (List (Char × Char) × List Glyph)
  | 0, _, _ | _, _, [] => none
  | fuel + 1, isFirst, glyph :: rest =>
    let add (found : List (Char × Char)) (rest : List Glyph) :=
      (ranges fuel false rest).map fun (later, rest) => (found ++ later, rest)
    if glyph.char = ']' && glyph.isActive && !isFirst then some ([], rest)
    else match if glyph.char = '[' && glyph.isActive then classAfter? rest else none with
    | some (found, rest) => add found rest
    | none =>
      let (low, rest) := member glyph rest
      match rest with
      | dash :: last :: rest' =>
        if dash.char = '-' && dash.isActive && !(last.char = ']' && last.isActive) then
          let (high, later) := member last rest'
          add [(low, high)] later
        else add [(low, low)] rest
      | _ => add [(low, low)] rest

/-- The pattern of glyphs. -/
def ofGlyphs : (fuel : Nat) → List Glyph → Pattern
  | 0, _ | _, [] => []
  | fuel + 1, glyph :: rest =>
    if !glyph.isActive then .exactly glyph.char :: ofGlyphs fuel rest
    else match glyph.char with
    | '*' => .anyText :: ofGlyphs fuel rest
    | '?' => .anyChar :: ofGlyphs fuel rest
    | '\\' =>
      match rest with
      | next :: rest => .exactly next.char :: ofGlyphs fuel rest
      | [] => [.exactly '\\']
    | '[' =>
      let negated := rest.head?.any fun next => next.char = '!' && next.isActive
      match ranges (rest.length + 1) true (if negated then rest.tail else rest) with
      | some (found, rest) => .among negated found :: ofGlyphs fuel rest
      | none => .exactly '[' :: ofGlyphs fuel rest
    | c => .exactly c :: ofGlyphs fuel rest

/-- The pattern of an expanded word. -/
def ofWord (glyphs : List Glyph) : Pattern := ofGlyphs (glyphs.length + 1) glyphs

/-- Whether a pattern is more than a text. -/
def isProper (pattern : Pattern) : Bool :=
  pattern.any fun part => match part with | .exactly _ => false | _ => true

/-- Whether a test holds for the text without some of its front. -/
def anyRest (test : ByteText → Bool) : ByteText → Bool
  | [] => test []
  | c :: rest => test (c :: rest) || anyRest test rest

/-- Whether a text fits a pattern. -/
def fits : Pattern → ByteText → Bool
  | [], text => text.isEmpty
  | .anyText :: rest, text => anyRest (fits rest) text
  | part :: rest, c :: text => part.fits c && fits rest text
  | _ :: _, [] => false

end Pattern

end CopyOracle.Shell
