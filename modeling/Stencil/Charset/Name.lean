import Stencil.Charset.Designated
import Stencil.Charset.Escaped
import Stencil.Charset.HostName
import Stencil.Charset.Seven
import Stencil.Charset.SingleByte

/-!
# Names of charsets

Charsets have names, of which letter case and punctuation do not matter: each row of punctuation is
the same as a low line, and at the ends it does not count. Only points are kept, and a few names
have them. Some names stand for ways to pack bytes or to exchange letters, which are no charsets.
-/

namespace Stencil.Charset

/-- The charset of units of one byte. -/
def units8 : Charset := .ofPieces (readUtf8 false)

/-- The charset of units of one byte after a byte order mark, which is skipped. Tolerantly nothing
is read of a part of the mark by itself. -/
def markedUnits8 : Charset where
  readTolerantly bs := .ok <|
    if bs.length < mark8.length && bs.isPrefixOf mark8 then [] else text8 (withoutMark bs)
  readStrictly bs := units8.readStrictly (withoutMark bs)

/-- The charset of units of two bytes in an order. -/
def units16 (order : ByteOrder) : Charset :=
  .ofPieces fun bs => readUtf16 false (Charset.pairs order bs)

/-- The charset of units of four bytes in an order. -/
def units32 (order : ByteOrder) : Charset := .ofPieces (readUtf32 false order)

/-- The charset of units of some bytes after a byte order mark, which tells their order. Tolerantly
nothing is read without a mark; strictly the lower bytes come first then. -/
def marked (width : Nat) (mark? : List UInt8 → Option (ByteOrder × List UInt8))
    (units : ByteOrder → Charset) : Charset where
  readTolerantly bs :=
    match mark? bs with
    | some (order, rest) => (units order).readTolerantly rest
    | none => if bs.length < width then (units .little).readTolerantly bs else .error .refused
  readStrictly bs :=
    match mark? bs with
    | some (order, rest) => (units order).readStrictly rest
    | none => (units .little).readStrictly bs

/-- The charset that nothing can be read with. -/
def undefined : Charset where
  readTolerantly _ := .error .refused
  readStrictly _ := .error .refused

/-- What a name stands for. -/
inductive Named where
  /-- A charset. -/
  | charset (c : Charset)
  /-- An exchange of letters. -/
  | exchange
  /-- A way to pack bytes. -/
  | packing

/-- The charsets by their names, the charsets of single bytes apart. -/
def namedCharsets : List (String × Charset) := [
  ("utf_8 cp65001 u8 utf utf8 utf8_ucs2 utf8_ucs4", units8),
  ("utf_8_sig", markedUnits8),
  ("utf_16 u16 utf16", marked 2 marked16? units16),
  ("utf_16_be unicodebigunmarked utf_16be", units16 .big),
  ("utf_16_le unicodelittleunmarked utf_16le", units16 .little),
  ("utf_32 u32 utf32", marked 4 marked32? units32),
  ("utf_32_be utf_32be", units32 .big),
  ("utf_32_le utf_32le", units32 .little),
  ("utf_7 u7 unicode_1_1_utf_7 utf7", seven),
  ("ascii 646 ansi_x3.4_1968 ansi_x3.4_1986 ansi_x3_4_1968 cp367 csascii ibm367 iso646_us " ++
    "iso_646.irv_1991 iso_ir_6 us us_ascii", ascii),
  ("latin_1 8859 cp819 csisolatin1 ibm819 iso8859 iso8859_1 iso_8859_1 iso_8859_1_1987 " ++
    "iso_ir_100 l1 latin latin1", latin),
  ("iso8859_1", latin),
  ("charmap", latin),
  ("gb2312 chinese csiso58gb231280 euc_cn euccn eucgb2312_cn gb2312_1980 gb2312_80 iso_ir_58 " ++
    "x_mac_simp_chinese", guobiao),
  ("gbk 936 cp936 ms936", guobiaoWide),
  ("gb18030 gb18030_2000", guobiaoFull),
  ("hz hz_gb hz_gb_2312 hzgb", guobiaoMarked),
  ("big5 big5_tw csbig5 x_mac_trad_chinese", bigFive),
  ("cp950 950 ms950", bigFiveWindows),
  ("big5hkscs big5_hkscs hkscs", bigFiveHongKong),
  ("euc_kr euckr korean ks_c_5601 ks_c_5601_1987 ks_x_1001 ksc5601 ksx1001 x_mac_korean", korean),
  ("cp949 949 ms949 uhc", koreanWide),
  ("johab cp1361 ms1361", koreanComposed),
  ("euc_jp eucjp u_jis ujis", japanese),
  ("euc_jis_2004 euc_jis2004 eucjis2004 jisx0213", japaneseEdition .second),
  ("euc_jisx0213 eucjisx0213", japaneseEdition .first),
  ("shift_jis csshiftjis s_jis shiftjis sjis x_mac_japanese", japaneseShifted),
  ("cp932 932 ms932 ms_kanji mskanji", japaneseWindows),
  ("shift_jis_2004 s_jis_2004 shiftjis2004 sjis_2004", japaneseShiftedEdition .second),
  ("shift_jisx0213 s_jisx0213 shiftjisx0213 sjisx0213", japaneseShiftedEdition .first),
  ("iso2022_jp csiso2022jp iso2022jp iso_2022_jp",
    designated { sets := [.kanji, .yen, .earlyKanji] }),
  ("iso2022_jp_1 iso2022jp_1 iso_2022_jp_1",
    designated { sets := [.kanji, .kanjiMore, .yen, .earlyKanji] }),
  ("iso2022_jp_2 iso2022jp_2 iso_2022_jp_2",
    designated {
      sets := [.kanji, .kanjiMore, .korean, .guobiao, .yen, .earlyKanji, .western, .greek]
      hasThird := true }),
  ("iso2022_jp_2004 iso2022jp_2004 iso_2022_jp_2004",
    designated { sets := [.kanji, .firstPlane .second, .secondPlane] }),
  ("iso2022_jp_3 iso2022jp_3 iso_2022_jp_3",
    designated { sets := [.kanji, .firstPlane .first, .secondPlane] }),
  ("iso2022_jp_ext iso2022jp_ext iso_2022_jp_ext",
    designated { sets := [.kanji, .kanjiMore, .yen, .narrow, .earlyKanji] }),
  ("iso2022_kr csiso2022kr iso2022kr iso_2022_kr",
    designated { sets := [.korean], hasShifts := true, hasRevision := false }),
  ("raw_unicode_escape", escapedPlainly),
  ("unicode_escape", escaped),
  ("punycode", label),
  ("idna", name),
  ("undefined", undefined)]

/-- The names of exchanges of letters. -/
def exchangeNames : String := "rot_13 rot13"

/-- The names of ways to pack bytes. -/
def packingNames : List String := [
  "base64_codec base64 base_64", "bz2_codec bz2", "hex_codec hex",
  "quopri_codec quopri quoted_printable quotedprintable", "uu_codec uu", "zlib_codec zip zlib"]

/-- Names with what they stand for. -/
def allNamed : List (String × Named) :=
  namedCharsets.map (fun (names, c) => (names, .charset c)) ++
  Table.singleByte.map (fun (names, first, grid) =>
    (names, .charset (singleByte first (.ofText grid)))) ++
  Table.mainframe.map (fun (names, _, grid) => (names, .charset (mainframe (.ofText grid)))) ++
  (exchangeNames, .exchange) :: packingNames.map fun names => (names, .packing)

/-- Whether a character counts in a name. -/
def countsInName (c : Char) : Bool := c.isAlphanum || c = '.'

/-- A name in lower case, with a low line for each row of punctuation between characters that
count. -/
def plainName (cs : List Char) : List Char :=
  let parts := (cs.splitOnP fun c => !countsInName c).filter fun part => !part.isEmpty
  ['_'].intercalate (parts.map fun part => part.map Char.toLower)

/-- Whether a name is among some names, of which the first one has to be written without points. -/
def isAmong (name : List Char) (names : String) : Bool :=
  match Text.words names with
  | [] => false
  | first :: others =>
    name = first || others.contains name ||
      others.contains (name.map fun c => if c = '.' then '_' else c)

/-- What a name stands for. -/
def named? (name : List Char) : Option Named :=
  (allNamed.find? fun entry => isAmong (plainName name) entry.1).map Prod.snd

end Stencil.Charset
