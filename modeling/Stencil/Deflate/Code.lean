/-!
# Codes of bits

Compressed data is a row of bits, the lowest bit of each byte first. Symbols are written by codes of
different lengths, none of which starts another one. The lengths of the codes fix them: shorter ones
come first, and those of the same length are in the order of the symbols.
-/

namespace Stencil.Deflate

/-- Why data cannot be unpacked. -/
inductive Fault where
  /-- The header is not that of packed data. -/
  | header
  /-- The data is packed in a way that is not known. -/
  | method
  /-- The data looks back further than is possible. -/
  | window
  /-- The header has parts that are not known. -/
  | flags
  /-- The header has been damaged. -/
  | headerCheck
  /-- The data was packed with the help of other data. -/
  | dictionary
  /-- A block is of no known kind. -/
  | blockType
  /-- The two lengths of a plain block do not agree. -/
  | storedLengths
  /-- There are too many symbols. -/
  | tooManySymbols
  /-- The lengths of the codes for lengths are no code. -/
  | codeLengths
  /-- A length is repeated where it cannot be. -/
  | lengthRepeat
  /-- No symbol ends the block. -/
  | missingEnd
  /-- The lengths of the codes for bytes are no code. -/
  | literalSet
  /-- The lengths of the codes for distances are no code. -/
  | distanceSet
  /-- Some bits are no code for a byte or a length. -/
  | literalCode
  /-- Some bits are no code for a distance. -/
  | distanceCode
  /-- A distance leads back before the start. -/
  | distanceTooFar
  /-- The data has been damaged. -/
  | dataCheck
  /-- The length of the data is not the one that is told. -/
  | lengthCheck
  deriving DecidableEq, Repr

/-- The wording of a fault. -/
def Fault.message : Fault → String
  | .header => "incorrect header check"
  | .method => "unknown compression method"
  | .window => "invalid window size"
  | .flags => "unknown header flags set"
  | .headerCheck => "header crc mismatch"
  | .dictionary => "need dictionary"
  | .blockType => "invalid block type"
  | .storedLengths => "invalid stored block lengths"
  | .tooManySymbols => "too many length or distance symbols"
  | .codeLengths => "invalid code lengths set"
  | .lengthRepeat => "invalid bit length repeat"
  | .missingEnd => "invalid code -- missing end-of-block"
  | .literalSet => "invalid literal/lengths set"
  | .distanceSet => "invalid distances set"
  | .literalCode => "invalid literal/length code"
  | .distanceCode => "invalid distance code"
  | .distanceTooFar => "invalid distance too far back"
  | .dataCheck => "incorrect data check"
  | .lengthCheck => "incorrect length check"

/-- The bits of bytes, the lowest bit of each byte first. -/
def bitsOf (bs : List UInt8) : List Bool :=
  bs.flatMap fun b => (List.range 8).map fun i => b.toNat.testBit i

/-- The number that the first bits spell, the lowest one first, and the bits after them, if there
are enough. -/
def take? : Nat → List Bool → Option (Nat × List Bool)
  | 0, bits => some (0, bits)
  | _ + 1, [] => none
  | count + 1, bit :: bits => (take? count bits).map fun (n, rest) => (bit.toNat + 2 * n, rest)

/-- A code by the lengths of the codes of its symbols. -/
structure Code where
  /-- How many symbols have a code of each length, from one on. -/
  counts : List Nat
  /-- The symbols in the order of their codes. -/
  symbols : List Nat
  deriving DecidableEq, Repr

namespace Code

/-- The code of the symbols with the given lengths; a length of zero stands for no code. -/
def ofLengths (lengths : List Nat) : Code :=
  let longest := lengths.foldl max 1
  let indexed := lengths.zipIdx
  let ofLength (n : Nat) : List Nat := (indexed.filter fun entry => entry.1 = n).map Prod.snd
  { counts := (List.range longest).map fun i => (ofLength (i + 1)).length
    symbols := (List.range longest).flatMap fun i => ofLength (i + 1) }

/-- How many codes of the last length are free; none if there are too many codes. -/
def free? (counts : List Nat) : Option Nat :=
  counts.foldlM (fun free count => if count ≤ 2 * free then some (2 * free - count) else none) 1

/-- Whether a code can be used: there are not too many codes, and none is missing, unless there is
at most one symbol and codes may be missing. -/
def isUsable (c : Code) (mayMiss : Bool) : Bool :=
  c.symbols.isEmpty ||
    match free? c.counts with
    | none => false
    | some free => free = 0 || (mayMiss && c.counts.length = 1)

/-- What reading a code comes to. -/
inductive Reading where
  /-- A symbol and the bits after its code. -/
  | symbol (n : Nat) (rest : List Bool)
  /-- The bits are no code; the bits after them. -/
  | unknown (rest : List Bool)
  /-- There are not enough bits. -/
  | short
  deriving DecidableEq, Repr

/-- Reads a code. `code` is the number of the bits so far, `first` that of the first code of their
length, and `index` the place of its symbol. -/
def readFrom (symbols : List Nat) (code first index : Nat) : List Nat → List Bool → Reading
  | [], rest => .unknown rest
  | _ :: _, [] => .short
  | count :: counts, bit :: rest =>
    let code := 2 * code + bit.toNat
    let first := 2 * first
    if code < first + count then .symbol (symbols.getD (index + (code - first)) 0) rest
    else readFrom symbols code (first + count) (index + count) counts rest

/-- Reads a code. -/
def read (c : Code) (bits : List Bool) : Reading := readFrom c.symbols 0 0 0 c.counts bits

end Code

end Stencil.Deflate
