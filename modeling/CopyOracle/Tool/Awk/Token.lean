import CopyOracle.Number.Decimals
import CopyOracle.Tool.Awk.Syntax

/-!
# The words of programs for records

A program is taken apart into words. A slash begins an expression where no value stands before it,
and divides otherwise.
-/
namespace CopyOracle.Tool.Awk

/-- Why a program cannot be read. -/
inductive Fault where
  /-- A word stands where it may not stand. -/
  | syntaxError (word : ByteText)
  /-- A brace is not closed. -/
  | missingBrace
  /-- A brace closes nothing. -/
  | extraBrace
  /-- A parenthesis is not closed before a word. -/
  | missingParenthesis (word : ByteText)
  /-- A parenthesis closes nothing. -/
  | extraParenthesis
  /-- A regular expression has no end. -/
  | openPattern (start : ByteText)
  /-- A text has no end. -/
  | openText (start : ByteText)
  /-- A regular expression cannot be read. -/
  | badPattern (wording : String) (source : ByteText)
  /-- A character is none of the language. -/
  | badCharacter (c : Char)
  /-- A function is not there. -/
  | unknownFunction (name : String)
  /-- A function is there twice. -/
  | secondFunction (name : String)
  /-- A function of the language has too many or too few arguments. -/
  | argumentCount (name : String)
  /-- A format is missing. -/
  | noFormat
  /-- A way back stands outside of functions. -/
  | strayReturn
  /-- A way to the next record stands where there is none. -/
  | strayNext (word : String)
  /-- A way out of a loop stands outside of loops. -/
  | strayBreak
  /-- A way on with a loop stands outside of loops. -/
  | strayContinue

/-- A word of a program. -/
inductive Token where
  /-- A number. -/
  | number (value : Float) (written : ByteText)
  /-- A text. -/
  | text (text written : ByteText)
  /-- A regular expression. -/
  | pattern (source : ByteText)
  /-- A name. -/
  | name (name : String)
  /-- A name with a parenthesis right after it. -/
  | called (name : String)
  /-- A word of the language. -/
  | keyword (word : String)
  /-- A sign. -/
  | sign (sign : String)
  /-- The end of a line. -/
  | lineEnd
  /-- The end of the program. -/
  | finish
  /-- Something that is no word. -/
  | broken (fault : Fault)
deriving Inhabited

/-- A word with the number of its line. -/
structure PlacedToken where
  /-- The word. -/
  token : Token
  /-- The number of its line. -/
  line : Nat
  /-- How many parentheses are open before it. -/
  opened : Nat

/-- What is wrong with a program. -/
def Fault.message : Fault → ByteText
  | .syntaxError word => "syntax error at or near ".toList ++ word
  | .missingBrace => "missing \x7d near end of file".toList
  | .extraBrace => "extra '\x7d'".toList
  | .missingParenthesis word => "missing ) near ".toList ++ word
  | .extraParenthesis => "extra ')'".toList
  | .openPattern start => "runaway regular expression ".toList ++ start ++ " ...".toList
  | .openText start => "runaway string constant ".toList ++ start ++ " ...".toList
  | .badPattern wording source =>
    "regular expression compile failed (".toList ++ wording.toList ++ ")\n".toList ++ source
  | .badCharacter c => "unexpected character '".toList ++ [c, '\'']
  | .unknownFunction name => "function ".toList ++ name.toList ++ " never defined".toList
  | .secondFunction name => "redefinition of ".toList ++ name.toList
  | .argumentCount name => "wrong number of arguments in call to ".toList ++ name.toList
  | .noFormat => "no arguments in call to printf".toList
  | .strayReturn => "return outside function body".toList
  | .strayNext word => "improper use of ".toList ++ word.toList
  | .strayBreak => "break statement outside of loop".toList
  | .strayContinue => "continue statement outside of loop".toList

namespace Token

/-- The word as faults show it. -/
def shown : Token → ByteText
  | .number _ written => written
  | .text _ written => written
  | .pattern source => '/' :: source ++ ['/']
  | .name word | .called word | .keyword word => word.toList
  | .sign mark => mark.toList
  | .lineEnd => "end of line".toList
  | .finish => "end of file".toList
  | .broken _ => []

/-- The words of the language. -/
def keywords : List String :=
  ["BEGIN", "END", "if", "else", "while", "for", "do", "break", "continue", "next", "nextfile",
    "exit", "return", "delete", "in", "getline", "print", "printf", "function"]

/-- The signs, longer ones first. -/
def signs : List String :=
  ["&&", "||", "<=", "==", "!=", ">=", ">>", "++", "--", "+=", "-=", "*=", "/=", "%=", "^=",
    "!~", "\x7b", "\x7d", "[", "]", ";", ",", "+", "-", "*", "/", "%", "^", "!",
    ">", "<", "|", "?", ":", "~", "$", "="]

/-- Whether a value may stand before what comes after the word, so that a slash divides. -/
def endsValue : Token → Bool
  | .number _ _ | .text _ _ | .pattern _ | .name _ => true
  | .sign mark => mark ∈ [")", "]", "$", "++", "--"]
  | .keyword word => word = "getline"
  | _ => false

/-- A text with its escapes resolved; a backslash before another character stays. -/
def resolve : (fuel : Nat) → ByteText → ByteText
  | 0, _ | _, [] => []
  | fuel + 1, '\\' :: rest =>
    match rest with
    | '"' :: later => '"' :: resolve fuel later
    | '\\' :: later => '\\' :: resolve fuel later
    | 'a' :: later => Char.ofNat 7 :: resolve fuel later
    | 'b' :: later => Char.ofNat 8 :: resolve fuel later
    | 'f' :: later => Char.ofNat 12 :: resolve fuel later
    | 'n' :: later => '\n' :: resolve fuel later
    | 'r' :: later => '\r' :: resolve fuel later
    | 't' :: later => '\t' :: resolve fuel later
    | 'v' :: later => Char.ofNat 11 :: resolve fuel later
    | '\n' :: later => resolve fuel later
    | 'x' :: later =>
      let digits := (later.take 2).takeWhile fun c => (Decimals.digitValue? c).isSome
      if digits.isEmpty then '\\' :: 'x' :: resolve fuel later
      else
        let value := digits.foldl (fun value c =>
          value * 16 + (Decimals.digitValue? c).getD 0) 0
        Char.ofNat value :: resolve fuel (later.drop digits.length)
    | _ =>
      let digits := (rest.take 3).takeWhile fun c => '0' ≤ c && c ≤ '7'
      if digits.isEmpty then '\\' :: resolve fuel rest
      else Char.ofNat (Nat.ofDigitChars 8 digits 0 % 256) :: resolve fuel (rest.drop digits.length)
  | fuel + 1, c :: rest => c :: resolve fuel rest

/-- The characters up to a mark that no backslash protects, and what follows the mark; none if a
line ends before. -/
def upTo? (mark : Char) : (fuel : Nat) → ByteText → ByteText → Option (ByteText × ByteText)
  | 0, _, _ | _, _, [] => none
  | fuel + 1, reversed, c :: rest =>
    if c = mark then some (reversed.reverse, rest)
    else if c = '\\' then
      match rest with
      | d :: rest => upTo? mark fuel (d :: c :: reversed) rest
      | [] => none
    else if c = '\n' then none
    else upTo? mark fuel (c :: reversed) rest

/-- The characters of a regular expression up to its slash, and what follows it. A slash in a list
of characters does not count. -/
def patternUpTo? : (fuel : Nat) → (isInList : Bool) → ByteText → ByteText →
    Option (ByteText × ByteText)
  | 0, _, _, _ | _, _, _, [] => none
  | fuel + 1, isInList, reversed, c :: rest =>
    if c = '\n' then none
    else if c = '\\' then
      match rest with
      | '/' :: rest => patternUpTo? fuel isInList ('/' :: reversed) rest
      | d :: rest => patternUpTo? fuel isInList (d :: c :: reversed) rest
      | [] => none
    else if c = '/' && !isInList then some (reversed.reverse, rest)
    else if c = '[' && !isInList then
      match rest with
      | '^' :: ']' :: rest => patternUpTo? fuel true (']' :: '^' :: c :: reversed) rest
      | ']' :: rest => patternUpTo? fuel true (']' :: c :: reversed) rest
      | _ => patternUpTo? fuel true (c :: reversed) rest
    else if c = '[' && isInList then
      match rest with
      | ':' :: rest =>
        let name := rest.takeWhile Char.isAlpha
        match rest.drop name.length with
        | ':' :: ']' :: later =>
          patternUpTo? fuel true (']' :: ':' :: name.reverse ++ ':' :: c :: reversed) later
        | _ => patternUpTo? fuel true (':' :: c :: reversed) rest
      | _ => patternUpTo? fuel true (c :: reversed) rest
    else patternUpTo? fuel (isInList && c ≠ ']') (c :: reversed) rest

/-- The number at the front of a text, as programs write numbers. -/
def number? (text : ByteText) : Option (Float × ByteText) :=
  match text with
  | '0' :: x :: _ =>
    if x = 'x' || x = 'X' then some (0.0, text.drop 1) else Decimals.atFront? text
  | c :: _ => if c.isDigit || c = '.' then Decimals.atFront? text else none
  | [] => none

/-- Whether a name can begin with a character. -/
def beginsName (c : Char) : Bool := c.isAlpha || c = '_'

/-- The words of a program. -/
def ofText : (fuel : Nat) → (line opened : Nat) → (previous : Token) → ByteText → List PlacedToken
  | 0, line, opened, _, _ | _, line, opened, _, [] => [⟨.finish, line, opened⟩]
  | fuel + 1, line, opened, previous, c :: rest =>
    let go (token : Token) (rest : ByteText) : List PlacedToken :=
      ⟨token, line, opened⟩ :: ofText fuel line opened token rest
    let stop (fault : Fault) : List PlacedToken := [⟨.broken fault, line, opened⟩]
    if c = ' ' || c = '\t' || c = '\r' then ofText fuel line opened previous rest
    else if c = '\n' then
      ⟨.lineEnd, line, opened⟩ :: ofText fuel (line + 1) opened .lineEnd rest
    else if c = '\\' && rest.head? = some '\n' then
      ofText fuel (line + 1) opened previous (rest.drop 1)
    else if c = '#' then ofText fuel line opened previous (rest.dropWhile (· ≠ '\n'))
    else if c = '(' then
      ⟨.sign "(", line, opened⟩ :: ofText fuel line (opened + 1) (.sign "(") rest
    else if c = ')' then
      if opened = 0 then stop .extraParenthesis
      else ⟨.sign ")", line, opened⟩ :: ofText fuel line (opened - 1) (.sign ")") rest
    else if c = '"' then
      match upTo? '"' (rest.length + 1) [] rest with
      | some (inner, rest) =>
        go (.text (resolve (inner.length + 1) inner) ('"' :: inner ++ ['"'])) rest
      | none => stop (.openText (c :: rest.takeWhile (· ≠ '\n')))
    else if c = '/' && !previous.endsValue then
      match patternUpTo? (rest.length + 1) false [] rest with
      | some (source, rest) => go (.pattern source) rest
      | none => stop (.openPattern (c :: (rest.takeWhile (· ≠ '\n'))))
    else if beginsName c then
      let word := (c :: rest).takeWhile fun c => c.isAlphanum || c = '_'
      let rest := (c :: rest).drop word.length
      let spelled := String.ofList word
      if keywords.contains spelled then go (.keyword spelled) rest
      else if rest.head? = some '(' then go (.called spelled) rest
      else go (.name spelled) rest
    else match number? (c :: rest) with
    | some (value, later) =>
      go (.number value ((c :: rest).take (rest.length + 1 - later.length))) later
    | none =>
      match signs.find? fun mark => mark.toList.isPrefixOf (c :: rest) with
      | some mark => go (.sign mark) ((c :: rest).drop mark.length)
      | none => stop (.badCharacter c)

end Token

end CopyOracle.Tool.Awk
