import Stencil.Charset.Chinese
import Stencil.Charset.Table.Korean

/-!
# Korean charsets

Korean syllables are composed of letters: a leading one, a vowel, and sometimes a trailing one. The
first charset has the syllables in common use, and composes the others of four letters; a wider one
has the others in their order; another one composes all syllables of the bits of their codes.
-/

namespace Stencil.Charset

/-- The syllable of the numbers of its letters. A trailing letter of zero stands for none. -/
def syllable (leading vowel trailing : Nat) : Char :=
  Char.ofNat (0xAC00 + leading * 588 + vowel * 28 + trailing)

/-- The leading letters in order. -/
def leadingLetters : List Char := "ㄱㄲㄴㄷㄸㄹㅁㅂㅃㅅㅆㅇㅈㅉㅊㅋㅌㅍㅎ".toList

/-- The vowels in order. -/
def vowels : List Char := "ㅏㅐㅑㅒㅓㅔㅕㅖㅗㅘㅙㅚㅛㅜㅝㅞㅟㅠㅡㅢㅣ".toList

/-- The trailing letters in order. -/
def trailingLetters : List Char := "ㄱㄲㄳㄴㄵㄶㄷㄹㄺㄻㄼㄽㄾㄿㅀㅁㅂㅄㅅㅆㅇㅈㅊㅋㅌㅍㅎ".toList

/-- The letter of a byte. -/
def letterOf (b : UInt8) : Char := Char.ofNat (0x3131 + (b.toNat - 0xA1))

/-- The byte that fills the place of a letter. -/
def filler : UInt8 := 0xD4

/-- The syllable of the bytes of three letters, the last of which may be filled. -/
def spelled? (a b c : UInt8) : Option Char :=
  if a < 0xA1 || b < 0xA1 || c < 0xA1 then none
  else do
    let leading ← leadingLetters.findIdx? (· = letterOf a)
    let vowel ← vowels.findIdx? (· = letterOf b)
    let trailing ← if c = filler then some 0
      else (trailingLetters.findIdx? (· = letterOf c)).map (· + 1)
    return syllable leading vowel trailing

/-- A step of the charset with the syllables in common use. -/
def koreanStep (b : UInt8) (rest : List UInt8) : Step :=
  match rest with
  | 0xD4 :: more =>
    if b = 0xA4 then
      match more with
      | 0xA4 :: leading :: 0xA4 :: vowel :: 0xA4 :: trailing :: _ =>
        .found (spelled? leading vowel trailing).toList 7
      | more => if more.length < 6 then .short rest else .unknown
    else pairStep (charsAmong [Table.korean]) b rest
  | _ => pairStep (charsAmong [Table.korean]) b rest

/-- The charset with the syllables in common use. -/
def korean : Charset := .ofPieces (readBy koreanStep)

/-- The syllables that are not in common use, in order. -/
def rareSyllables : Array Char :=
  let common := Table.korean.foldl (fun set row => row.chars.foldl (fun set c =>
    if 0xAC00 ≤ c.toNat then set.setIfInBounds (c.toNat - 0xAC00) true else set) set)
    (Array.replicate 11172 false)
  ((List.range 11172).filter fun i => common[i]? = some false).map (fun i =>
    Char.ofNat (0xAC00 + i)) |>.toArray

/-- The number of a second byte among those that follow the first byte of a rare syllable. -/
def rareCell? (c : Nat) : Option Nat :=
  if 0x41 ≤ c && c ≤ 0x5A then some (c - 0x41)
  else if 0x61 ≤ c && c ≤ 0x7A then some (c - 0x61 + 26)
  else if 0x81 ≤ c && c ≤ 0xFE then some (c - 0x81 + 52)
  else none

/-- The rare syllable of a code. -/
def rareSyllable? (code : Nat) : Option Char := do
  let (lead, cell) := (code / 256, ← rareCell? (code % 256))
  if lead < 0x81 then none
  else if lead < 0xA1 then rareSyllables[(lead - 0x81) * 178 + cell]?
  else if lead ≤ 0xC6 && cell < 84 then rareSyllables[32 * 178 + (lead - 0xA1) * 84 + cell]?
  else none

/-- The characters of a code of the wider charset. -/
def wideKoreanChars (code : Nat) : List Char :=
  match charsAmong [Table.korean] code with
  | [] => (rareSyllable? code).toList
  | chars => chars

/-- The charset with all syllables. -/
def koreanWide : Charset := .ofPieces (readBy (pairStep wideKoreanChars))

/-- What five bits of a code stand for. -/
inductive LetterBits where
  /-- Nothing that is known. -/
  | unknown
  /-- No letter. -/
  | filled
  /-- The letter with a number. -/
  | letter (n : Nat)
  deriving DecidableEq, Repr

/-- What the bits of the leading letter stand for. -/
def leadingBits (n : Nat) : LetterBits :=
  if n = 1 then .filled else if 2 ≤ n && n ≤ 20 then .letter (n - 2) else .unknown

/-- What the bits of the vowel stand for: every fourth pair of numbers is left out. -/
def vowelBits (n : Nat) : LetterBits :=
  if n = 2 then .filled
  else if n < 3 || n % 8 < 2 || 29 < n then .unknown
  else .letter (n - 3 - 2 * (n / 8))

/-- What the bits of the trailing letter stand for. -/
def trailingBits (n : Nat) : LetterBits :=
  if n = 1 then .filled
  else if n = 0 || n = 18 || 29 < n then .unknown
  else .letter (if n < 18 then n - 1 else n - 2)

/-- The character that bits spell: a syllable, or a letter by itself. -/
def composed? (leading vowel trailing : LetterBits) : Option Char :=
  match leading, vowel, trailing with
  | .letter l, .letter v, .letter t => some (syllable l v t)
  | .letter l, .letter v, .filled => some (syllable l v 0)
  | .letter l, .filled, .filled => leadingLetters[l]?
  | .filled, .letter v, .filled => vowels[v]?
  | .filled, .filled, .letter t => trailingLetters[t - 1]?
  | .filled, .filled, .filled => some '\u3000'
  | _, _, _ => none

/-- The code in the common charset of a code past the composed syllables. -/
def plainCode? (lead cell : Nat) : Option Nat :=
  if lead < 0xD9 || lead = 0xDF || 0xF9 < lead || cell < 0x31 ||
      (0x80 ≤ cell && cell < 0x91) || cell % 128 = 127 ||
      (lead = 0xDA && 0xA1 ≤ cell && cell ≤ 0xD3) then none
  else
    let row := if lead < 0xE0 then 2 * (lead - 0xD9) else 2 * lead - 0x197
    let column := if cell < 0x91 then cell - 0x31 else cell - 0x43
    let (row, column) := if column < 94 then (row, column) else (row + 1, column - 94)
    some ((row + 0xA1) * 256 + column + 0xA1)

/-- The characters of a code of the charset that composes all syllables. -/
def composedChars (code : Nat) : List Char :=
  if code < 0xD800 then
    (composed? (leadingBits (code / 1024 % 32)) (vowelBits (code / 32 % 32))
      (trailingBits (code % 32))).toList
  else
    match plainCode? (code / 256) (code % 256) with
    | none => []
    | some code => charsAmong [Table.korean] code

/-- The charset that composes all syllables. -/
def koreanComposed : Charset := .ofPieces (readBy (pairStep composedChars))

end Stencil.Charset
