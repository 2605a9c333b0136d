import Stencil.Deflate.Code

/-!
# Blocks of packed data

Packed data is a row of blocks. A block is plain, or it is written with codes for bytes and for
repetitions: a repetition has a length and a distance to go back. The codes are fixed, or told at
the start of the block. Data that ends too early is unpacked as far as it goes.
-/

namespace Stencil.Deflate

/-- How far data has been unpacked. -/
structure Progress where
  /-- The bytes so far. -/
  out : Array UInt8
  /-- The bits that are left; none if there were not enough. -/
  rest : Option (List Bool)

/-- The order in which the lengths of the codes for lengths are told. -/
def lengthOrder : List Nat := [16, 17, 18, 0, 8, 7, 9, 6, 10, 5, 11, 4, 12, 3, 13, 2, 14, 1, 15]

/-- The least length of each symbol for lengths, with the bits that are added to it. -/
def lengthSteps : List (Nat × Nat) := [
  (3, 0), (4, 0), (5, 0), (6, 0), (7, 0), (8, 0), (9, 0), (10, 0), (11, 1), (13, 1), (15, 1),
  (17, 1), (19, 2), (23, 2), (27, 2), (31, 2), (35, 3), (43, 3), (51, 3), (59, 3), (67, 4),
  (83, 4), (99, 4), (115, 4), (131, 5), (163, 5), (195, 5), (227, 5), (258, 0)]

/-- The least distance of each symbol for distances, with the bits that are added to it. -/
def distanceSteps : List (Nat × Nat) := [
  (1, 0), (2, 0), (3, 0), (4, 0), (5, 1), (7, 1), (9, 2), (13, 2), (17, 3), (25, 3), (33, 4),
  (49, 4), (65, 5), (97, 5), (129, 6), (193, 6), (257, 7), (385, 7), (513, 8), (769, 8),
  (1025, 9), (1537, 9), (2049, 10), (3073, 10), (4097, 11), (6145, 11), (8193, 12), (12289, 12),
  (16385, 13), (24577, 13)]

/-- The fixed code for bytes and lengths. -/
def fixedLiterals : Code :=
  .ofLengths (List.replicate 144 8 ++ List.replicate 112 9 ++ List.replicate 24 7 ++
    List.replicate 8 8)

/-- The fixed code for distances. -/
def fixedDistances : Code := .ofLengths (List.replicate 32 5)

/-- The bytes with `count` more, each the one `distance` before it. -/
def copyBack (distance : Nat) : Nat → Array UInt8 → Array UInt8
  | 0, out => out
  | count + 1, out => copyBack distance count (out.push (out.getD (out.size - distance) 0))

/-- The distance at the start of bits, and the bits after it; none if there are not enough. -/
def distance (distances : Code) (bits : List Bool) : Except Fault (Option (Nat × List Bool)) :=
  match distances.read bits with
  | .short => .ok none
  | .unknown _ => .error .distanceCode
  | .symbol n rest =>
    match distanceSteps[n]? with
    | none => .error .distanceCode
    | some (least, more) => .ok ((take? more rest).map fun (extra, rest) => (least + extra, rest))

/-- Unpacks symbols up to the one that ends the block. Each step reads a symbol. -/
def unpackSymbols (literals distances : Code) :
    Nat → Array UInt8 → List Bool → Except Fault Progress
  | 0, out, _ => .ok ⟨out, none⟩
  | steps + 1, out, bits =>
    match literals.read bits with
    | .short => .ok ⟨out, none⟩
    | .unknown _ => .error .literalCode
    | .symbol n rest =>
      if n < 256 then unpackSymbols literals distances steps (out.push n.toUInt8) rest
      else if n = 256 then .ok ⟨out, some rest⟩
      else
        match lengthSteps[n - 257]? with
        | none => .error .literalCode
        | some (least, more) =>
          match take? more rest with
          | none => .ok ⟨out, none⟩
          | some (extra, rest) => do
            match ← distance distances rest with
            | none => return ⟨out, none⟩
            | some (back, rest) =>
              if out.size < back then throw .distanceTooFar
              unpackSymbols literals distances steps (copyBack back (least + extra) out) rest

/-- What reading the lengths of codes comes to. -/
abbrev Lengths := Option (List Nat × List Bool)

/-- One more length, which may be repeated, after those of `lengths`, which are in reverse. -/
def addLength (total : Nat) (lengths : List Nat) (symbol : Nat) (rest : List Bool) :
    Except Fault Lengths :=
  let repeated (value least bits : Nat) : Except Fault Lengths :=
    match take? bits rest with
    | none => .ok none
    | some (extra, rest) =>
      if total < lengths.length + least + extra then .error .lengthRepeat
      else .ok (some (List.replicate (least + extra) value ++ lengths, rest))
  if symbol < 16 then .ok (some (symbol :: lengths, rest))
  else if symbol = 16 then
    match lengths with
    | [] => if (take? 2 rest).isSome then .error .lengthRepeat else .ok none
    | last :: _ => repeated last 3 2
  else if symbol = 17 then repeated 0 3 3
  else repeated 0 11 7

/-- Reads the lengths of codes up to a total number. Each step reads at least one. -/
def readLengths (code : Code) (total : Nat) : Nat → List Nat → List Bool → Except Fault Lengths
  | 0, lengths, bits => .ok (some (lengths.reverse, bits))
  | steps + 1, lengths, bits =>
    if total ≤ lengths.length then .ok (some (lengths.reverse, bits))
    else
      match code.read bits with
      | .short => .ok none
      | .unknown rest => readLengths code total steps (0 :: lengths) rest
      | .symbol n rest => do
        match ← addLength total lengths n rest with
        | none => return none
        | some (lengths, rest) => readLengths code total steps lengths rest

/-- The numbers of some bits each, and the bits after them; none if there are not enough. -/
def takeEach? (width : Nat) : Nat → List Bool → Option (List Nat × List Bool)
  | 0, bits => some ([], bits)
  | count + 1, bits => do
    let (n, rest) ← take? width bits
    let (more, rest) ← takeEach? width count rest
    return (n :: more, rest)

/-- The code for lengths, whose own lengths are told by three bits each. -/
def lengthCode? (count : Nat) (bits : List Bool) : Option (Code × List Bool) :=
  (takeEach? 3 count bits).map fun (told, rest) =>
    let lengths := (List.range 19).map fun symbol =>
      ((lengthOrder.zip told).lookup symbol).getD 0
    (.ofLengths lengths, rest)

/-- Reads the codes that a block tells, and the bits after them; none if there are not enough. -/
def readCodes (bits : List Bool) : Except Fault (Option (Code × Code × List Bool)) :=
  match take? 5 bits with
  | none => .ok none
  | some (literalCount, rest) =>
    match take? 5 rest with
    | none => .ok none
    | some (distanceCount, rest) =>
      match take? 4 rest with
      | none => .ok none
      | some (lengthCount, rest) =>
        let (literalCount, distanceCount) := (literalCount + 257, distanceCount + 1)
        if 286 < literalCount || 30 < distanceCount then .error .tooManySymbols
        else
          match lengthCode? (lengthCount + 4) rest with
          | none => .ok none
          | some (code, rest) =>
            if !code.isUsable false then .error .codeLengths
            else do
              let total := literalCount + distanceCount
              match ← readLengths code total total [] rest with
              | none => return none
              | some (lengths, rest) =>
                if lengths.getD 256 0 = 0 then throw .missingEnd
                let literals := Code.ofLengths (lengths.take literalCount)
                let distances := Code.ofLengths (lengths.drop literalCount)
                if !literals.isUsable true then throw .literalSet
                if !distances.isUsable true then throw .distanceSet
                return some (literals, distances, rest)

/-- The bits from the next whole byte on. -/
def aligned (bits : List Bool) : List Bool := bits.drop (bits.length % 8)

/-- The bytes of bits, eight each; fewer at the end are left out. -/
def bytesOf : Nat → List Bool → Array UInt8 → Array UInt8
  | 0, _, out => out
  | count + 1, bits, out =>
    match take? 8 bits with
    | none => out
    | some (b, rest) => bytesOf count rest (out.push b.toUInt8)

/-- Unpacks a plain block. -/
def unpackPlain (out : Array UInt8) (bits : List Bool) : Except Fault Progress :=
  match take? 32 (aligned bits) with
  | none => .ok ⟨out, none⟩
  | some (lengths, rest) =>
    let length := lengths % 65536
    if length + lengths / 65536 ≠ 65535 then .error .storedLengths
    else
      let out := bytesOf length rest out
      .ok ⟨out, if 8 * length ≤ rest.length then some (rest.drop (8 * length)) else none⟩

/-- Unpacks a block, of the kind that two bits have told. -/
def unpackBlock (kind : Nat) (out : Array UInt8) (bits : List Bool) : Except Fault Progress :=
  match kind with
  | 0 => unpackPlain out bits
  | 1 => unpackSymbols fixedLiterals fixedDistances bits.length out bits
  | 2 => do
    match ← readCodes bits with
    | none => return ⟨out, none⟩
    | some (literals, distances, rest) =>
      unpackSymbols literals distances rest.length out rest
  | _ => .error .blockType

/-- Unpacks blocks up to the last one. Each step unpacks one. -/
def unpackBlocks : Nat → Array UInt8 → List Bool → Except Fault Progress
  | 0, out, _ => .ok ⟨out, none⟩
  | steps + 1, out, bits =>
    match take? 3 bits with
    | none => .ok ⟨out, none⟩
    | some (head, rest) => do
      let progress ← unpackBlock (head / 2) out rest
      match progress.rest with
      | none => return progress
      | some rest =>
        if head % 2 = 1 then return ⟨progress.out, some (aligned rest)⟩
        else unpackBlocks steps progress.out rest

/-- Unpacks data without a header. -/
def unpack (bits : List Bool) : Except Fault Progress := unpackBlocks bits.length #[] bits

end Stencil.Deflate
