import CopyOracle.Tool.Dump

/-!
# Other forms of bytes

Bytes are written with letters, or summed up in a number from which a change of them can be told.
-/
namespace CopyOracle.Tool

open Host

/-- The letters for six bits each. -/
def sixBitLetters : Array Char :=
  "ABCDEFGHIJKLMNOPQRSTUVWXYZabcdefghijklmnopqrstuvwxyz0123456789+/".toList.toArray

/-- Bytes written with letters for six bits each. -/
def inSixBits : ByteText → ByteText
  | [] => []
  | [a] =>
    let number := a.toNat * 16
    [letter (number / 64), letter (number % 64), '=', '=']
  | [a, b] =>
    let number := (a.toNat * 256 + b.toNat) * 4
    [letter (number / 4096), letter (number / 64 % 64), letter (number % 64), '=']
  | a :: b :: c :: rest =>
    let number := (a.toNat * 256 + b.toNat) * 256 + c.toNat
    letter (number / 262144) :: letter (number / 4096 % 64) :: letter (number / 64 % 64) ::
      letter (number % 64) :: inSixBits rest
where
  /-- The letter for six bits. -/
  letter (bits : Nat) : Char := sixBitLetters[bits]?.getD '='

/-- The bytes that letters for six bits each stand for, before the first group that is none; and
whether there is such a group. -/
def fromSixBits : ByteText → ByteText × Bool
  | a :: b :: c :: d :: rest =>
    match bits? a, bits? b with
    | some first, some second =>
      let start := Char.ofNat (first * 4 + second / 16)
      match bits? c, bits? d with
      | some third, some fourth =>
        let (later, isBad) := fromSixBits rest
        (start :: Char.ofNat (second % 16 * 16 + third / 4) :: Char.ofNat (third % 4 * 64 + fourth) ::
          later, isBad)
      | some third, none =>
        if d = '=' then
          let (later, isBad) := fromSixBits rest
          (start :: Char.ofNat (second % 16 * 16 + third / 4) :: later, isBad)
        else ([start, Char.ofNat (second % 16 * 16 + third / 4)], true)
      | none, _ =>
        if c = '=' && d = '=' then
          let (later, isBad) := fromSixBits rest
          (start :: later, isBad)
        else ([start], true)
    | _, _ => ([], true)
  | [] => ([], false)
  | [_] => ([], true)
  | a :: b :: rest =>
    match bits? a, bits? b with
    | some first, some second =>
      let start := Char.ofNat (first * 4 + second / 16)
      match rest.head?.bind bits? with
      | some third => ([start, Char.ofNat (second % 16 * 16 + third / 4)], true)
      | none => ([start], true)
    | _, _ => ([], true)
where
  /-- The six bits of a letter. -/
  bits? (c : Char) : Option Nat := sixBitLetters.findIdx? (· = c)

/-- A text in lines of so many characters; all in one line at zero. -/
def inLines (width : Nat) : (fuel : Nat) → ByteText → ByteText
  | 0, text => text
  | fuel + 1, text =>
    if text.isEmpty then []
    else if width = 0 then text
    else text.take width ++ '\n' :: inLines width fuel (text.drop width)

/-- Writes bytes with letters, or reads them back. -/
def base64 : Main := program fun arguments => do
  let asked ← askedFor (OptionTable.of "diw:" [("decode", .nothing, 'd'),
    ("ignore-garbage", .nothing, 'i'), ("wrap", .argument, 'w')]) arguments
  if let some extra := asked.operands[1]? then
    misuse 1 ("extra operand ".toList ++ quoted extra)
  let width ← match asked.argument? 'w' with
    | none => pure 76
    | some word => match Numeral.value? word with
      | some number => pure number
      | none => fail 1 ("invalid wrap size: ".toList ++ quoted word)
  let path := asked.operands.headD ['-']
  match ← openOperand path with
  | .error error => fail 1 (operandName path ++ ": ".toList ++ error.reason.toList)
  | .ok descriptor =>
    let text ← all "read error".toList descriptor
    if asked.has 'd' then
      let kept := text.filter fun c =>
        c ≠ '\n' && (!asked.has 'i' || c = '=' || sixBitLetters.contains c)
      let (bytes, isBad) := fromSixBits kept
      put bytes
      if isBad then fail 1 "invalid input".toList
    else put (inLines width (text.length * 2 + 1) (inSixBits text))

/-- The remainder of some bits after more of them, for the checksum of a text. -/
def checkStep (sum : UInt32) (c : Char) : UInt32 :=
  let start := sum ^^^ (c.toNat.toUInt32 <<< 24)
  (List.range 8).foldl (fun (sum : UInt32) _ =>
    if sum &&& 0x80000000 ≠ 0 then (sum <<< 1) ^^^ 0x04C11DB7 else sum <<< 1) start

/-- The bytes of a number, the lowest one first, without zero bytes at the end. -/
def lowBytes : (fuel : Nat) → Nat → ByteText
  | 0, _ => []
  | fuel + 1, number => if number = 0 then [] else Char.ofNat (number % 256) :: lowBytes fuel (number / 256)

/-- The checksum of a text with its length. -/
def checksum (text : ByteText) : UInt32 :=
  ~~~ (text ++ lowBytes 10 text.length).foldl checkStep 0

/-- Prints the checksums and the lengths of files. -/
def cksum : Main := program fun arguments => do
  let asked ← askedFor (OptionTable.of "") arguments
  forOperands asked.operands refusedPlainly fun path descriptor => do
    let text ← all (operandName path) descriptor
    let name := if asked.operands.isEmpty then [] else ' ' :: path
    putLine (Numeral.digits (checksum text).toNat ++ ' ' :: Numeral.digits text.length ++ name)

/-- A word turned left by some bits. -/
def turned (word bits : UInt32) : UInt32 := (word <<< bits) ||| (word >>> (32 - bits))

/-- A text filled up to blocks of sixty-four bytes: with a bit, zero bits, and its length in bits. -/
def inBlocks (lowFirst : Bool) (text : ByteText) : ByteText :=
  let zeros := (119 - text.length % 64) % 64
  let bits := text.length * 8
  let low := (List.range 8).map fun place => Char.ofNat (bits / Nat.pow 256 place % 256)
  text ++ Char.ofNat 128 :: List.replicate zeros (Char.ofNat 0) ++ (if lowFirst then low else low.reverse)

/-- The words of bytes. -/
def wordsOf (lowFirst : Bool) : ByteText → List UInt32
  | a :: b :: c :: d :: rest =>
    let bytes := if lowFirst then [d, c, b, a] else [a, b, c, d]
    (bytes.foldl (fun number (c : Char) => number * 256 + c.toNat) 0).toUInt32 :: wordsOf lowFirst rest
  | _ => []

/-- Words in rows of sixteen. -/
def rowsOfWords : (fuel : Nat) → List UInt32 → List (Array UInt32)
  | 0, _ | _, [] => []
  | fuel + 1, words => (words.take 16).toArray :: rowsOfWords fuel (words.drop 16)

/-- The blocks of a text. -/
def blocksOf (lowFirst : Bool) (text : ByteText) : List (Array UInt32) :=
  rowsOfWords (text.length + 1) (wordsOf lowFirst (inBlocks lowFirst text))

/-- The first thirty-two bits of the fraction of a root that is a float. -/
def fractionBits (root : Float) : UInt32 := ((root - root.floor) * 4294967296.0).floor.toUInt64.toUInt32

/-- The numbers that are mixed in step by step, from the sines of the steps. -/
def sineWords : Array UInt32 :=
  ((List.range 64).map fun step =>
    ((Float.ofNat (step + 1)).sin.abs * 4294967296.0).floor.toUInt64.toUInt32).toArray

/-- How far words are turned step by step. -/
def turns (step : Nat) : UInt32 :=
  let rows : List (List UInt32) := [[7, 12, 17, 22], [5, 9, 14, 20], [4, 11, 16, 23], [6, 10, 15, 21]]
  ((rows[step / 16]?.getD [])[step % 4]?).getD 0

/-- Four words after a step on a block. -/
def mixFour (block : Array UInt32) (state : UInt32 × UInt32 × UInt32 × UInt32) (step : Nat) :
    UInt32 × UInt32 × UInt32 × UInt32 :=
  let (a, b, c, d) := state
  let (mixed, place) :=
    if step < 16 then ((b &&& c) ||| (~~~ b &&& d), step)
    else if step < 32 then ((d &&& b) ||| (~~~ d &&& c), (5 * step + 1) % 16)
    else if step < 48 then (b ^^^ c ^^^ d, (3 * step + 5) % 16)
    else (c ^^^ (b ||| ~~~ d), 7 * step % 16)
  let sum := a + mixed + sineWords[step]?.getD 0 + block[place]?.getD 0
  (d, b + turned sum (turns step), b, c)

/-- The digest of four words of a text. -/
def digestFour (text : ByteText) : List UInt32 :=
  let start : UInt32 × UInt32 × UInt32 × UInt32 := (0x67452301, 0xefcdab89, 0x98badcfe, 0x10325476)
  let (a, b, c, d) := (blocksOf true text).foldl (fun (a, b, c, d) block =>
    let (e, f, g, h) := (List.range 64).foldl (mixFour block) (a, b, c, d)
    (a + e, b + f, c + g, d + h)) start
  [a, b, c, d].map inReverse
where
  /-- A word with its bytes the other way round. -/
  inReverse (word : UInt32) : UInt32 :=
    let second : UInt32 := (word >>> 8) &&& (0xff00 : UInt32)
    let third : UInt32 := (word <<< 8) &&& (0xff0000 : UInt32)
    (word >>> 24) ||| second ||| third ||| (word <<< 24)

/-- The words of a block with those that are worked out of them. -/
def extended (next : Array UInt32 → UInt32) (count : Nat) (block : Array UInt32) : Array UInt32 :=
  (List.range count).foldl (fun words _ => words.push (next words)) block

/-- The word so many places before the end. -/
def before (words : Array UInt32) (places : Nat) : UInt32 := words[words.size - places]?.getD 0

/-- Five words after a step. -/
def mixFive (words : Array UInt32) (state : UInt32 × UInt32 × UInt32 × UInt32 × UInt32)
    (step : Nat) : UInt32 × UInt32 × UInt32 × UInt32 × UInt32 :=
  let (a, b, c, d, e) := state
  let (mixed, added) : UInt32 × UInt32 :=
    if step < 20 then ((b &&& c) ||| (~~~ b &&& d), 0x5a827999)
    else if step < 40 then (b ^^^ c ^^^ d, 0x6ed9eba1)
    else if step < 60 then ((b &&& c) ||| (b &&& d) ||| (c &&& d), 0x8f1bbcdc)
    else (b ^^^ c ^^^ d, 0xca62c1d6)
  (turned a 5 + mixed + e + added + words[step]?.getD 0, a, turned b 30, c, d)

/-- The digest of five words of a text. -/
def digestFive (text : ByteText) : List UInt32 :=
  let (a, b, c, d, e) := (blocksOf false text).foldl (fun (a, b, c, d, e) block =>
    let words := extended (fun words =>
      turned (before words 3 ^^^ before words 8 ^^^ before words 14 ^^^ before words 16) 1) 64 block
    let (f, g, h, i, j) := (List.range 80).foldl (mixFive words) (a, b, c, d, e)
    (a + f, b + g, c + h, d + i, e + j))
    ((0x67452301, 0xefcdab89, 0x98badcfe, 0x10325476, 0xc3d2e1f0) :
      UInt32 × UInt32 × UInt32 × UInt32 × UInt32)
  [a, b, c, d, e]

/-- Whether a number has no divisor from another one on. -/
def hasNoDivisor (number : Nat) : (fuel divisor : Nat) → Bool
  | 0, _ => true
  | fuel + 1, divisor =>
    number < divisor * divisor || (number % divisor ≠ 0 && hasNoDivisor number fuel (divisor + 1))

/-- The first sixty-four prime numbers. -/
def firstPrimes : List Nat :=
  ((List.range 312).filter fun number => 2 ≤ number && hasNoDivisor number number 2).take 64

/-- The numbers that are mixed in step by step, from the cube roots of prime numbers. -/
def cubeWords : Array UInt32 :=
  (firstPrimes.map fun prime => fractionBits (Float.ofNat prime).cbrt).toArray

/-- Eight words after a step. -/
def mixEight (words : Array UInt32) (state : Array UInt32) (step : Nat) : Array UInt32 :=
  let word (place : Nat) : UInt32 := state[place]?.getD 0
  let right (value : UInt32) (bits : UInt32) : UInt32 := turned value (32 - bits)
  let high := right (word 4) 6 ^^^ right (word 4) 11 ^^^ right (word 4) 25
  let chosen := (word 4 &&& word 5) ^^^ (~~~ (word 4) &&& word 6)
  let first := word 7 + high + chosen + cubeWords[step]?.getD 0 + words[step]?.getD 0
  let low := right (word 0) 2 ^^^ right (word 0) 13 ^^^ right (word 0) 22
  let most := (word 0 &&& word 1) ^^^ (word 0 &&& word 2) ^^^ (word 1 &&& word 2)
  #[first + low + most, word 0, word 1, word 2, word 3 + first, word 4, word 5, word 6]

/-- The digest of eight words of a text. -/
def digestEight (text : ByteText) : List UInt32 :=
  let start := ((firstPrimes.take 8).map fun prime => fractionBits (Float.ofNat prime).sqrt).toArray
  let right (value : UInt32) (bits : UInt32) : UInt32 := turned value (32 - bits)
  ((blocksOf false text).foldl (fun state block =>
    let words := extended (fun words =>
      let low := before words 15
      let high := before words 2
      before words 16 + (right low 7 ^^^ right low 18 ^^^ (low >>> 3)) + before words 7 +
        (right high 17 ^^^ right high 19 ^^^ (high >>> 10))) 48 block
    let mixed := (List.range 64).foldl (mixEight words) state
    (state.zip mixed).map fun (old, new) => old + new) start).toList

/-- Prints the digests of files. -/
def digests (digest : ByteText → List UInt32) : Main := program fun arguments => do
  let asked ← askedFor (OptionTable.of "bctz" [("binary", .nothing, 'b'), ("text", .nothing, 't'),
    ("check", .nothing, 'c'), ("zero", .nothing, 'z')]) arguments
  forOperands asked.operands refusedPlainly fun path descriptor => do
    let text ← all (operandName path) descriptor
    let mark := if asked.has 'b' then '*' else ' '
    putLine ((digest text).flatMap (fun word => digitsIn 16 8 word.toNat) ++ ' ' :: mark :: path)

/-- Prints the digests of four words of files. -/
def md5sum : Main := digests digestFour

/-- Prints the digests of five words of files. -/
def sha1sum : Main := digests digestFive

/-- Prints the digests of eight words of files. -/
def sha256sum : Main := digests digestEight

end CopyOracle.Tool
