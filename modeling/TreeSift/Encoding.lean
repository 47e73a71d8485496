/-
  TreeSift.Encoding — from bytes to text.

  Five encodings are described, each under several names; case and punctuation in a
  name do not count. Other encodings are known by their names only. Bytes that an
  encoding does not allow are reported with their position: the first place where a
  reader has to give up, and why.

    §1 Encodings  `Encoding.ofName?`, `Encoding.faultOf`
    §2 Faults     `DecodingFault`
    §3 UTF-8      `utf8Text`
    §4 UTF-16     `utf16From`
    §5 Decoding   `Encoding.decode`
-/
import TreeSift.Text.Based

namespace TreeSift

/-! ## §1 Encodings -/

/-- The encodings that are known. -/
inductive Encoding where
  | utf8
  /-- UTF-8 after a byte order mark, if there is one. -/
  | utf8Marked
  | latin1
  | ascii
  /-- UTF-16 with the low byte first. -/
  | utf16
  deriving DecidableEq, Repr

namespace Encoding

/-- A name in lower case with one underscore for all punctuation between two of
its words; `pending` tells whether punctuation came before the list, and `started`
whether a word did. -/
def plainNameFrom (started pending : Bool) : List Char → List Char
  | [] => []
  | c :: rest =>
    if c.isAlphanum || c == '.' then
      (if started && pending then ['_'] else []) ++ c.toLower :: plainNameFrom true false rest
    else plainNameFrom started true rest

/-- A name of an encoding without case and punctuation. -/
def plainName (name : String) : String := String.ofList (plainNameFrom false false name.toList)

/-- The names of each encoding. -/
def names : List (Encoding × List String) := [
  (utf8, ["utf_8", "utf8", "u8", "utf", "utf8_ucs2", "utf8_ucs4", "cp65001"]),
  (utf8Marked, ["utf_8_sig"]),
  (latin1, ["latin_1", "latin1", "latin", "l1", "8859", "cp819", "csisolatin1", "ibm819",
    "iso8859", "iso8859_1", "iso_8859_1", "iso_8859_1_1987", "iso_ir_100"]),
  (ascii, ["ascii", "646", "ansi_x3.4_1968", "ansi_x3_4_1968", "ansi_x3.4_1986", "cp367",
    "csascii", "ibm367", "iso646_us", "iso_646.irv_1991", "iso_ir_6", "us", "us_ascii"]),
  (utf16, ["utf_16_le", "utf_16le", "unicodelittleunmarked"])]

/-- The encoding of a name. -/
def ofName? (name : String) : Option Encoding :=
  let plain := plainName name
  if name.toList.contains '\x00' then none
  else (names.find? fun e => e.2.contains plain).map Prod.fst

/-- The names of encodings that exist and are not described here. -/
def otherNames : List String := [
  "037", "1026", "1125", "1140", "1250", "1251", "1252", "1253", "1254", "1255", "1256", "1257",
  "1258", "273", "424", "437", "500", "775", "850", "852", "855", "857", "858", "860", "861",
  "862", "863", "864", "865", "866", "869", "932", "936", "949", "950", "arabic", "asmo_708",
  "big5", "big5_hkscs", "big5_tw", "big5hkscs", "charmap", "chinese", "cp037", "cp1006",
  "cp1026", "cp1051", "cp1125", "cp1140", "cp1250", "cp1251", "cp1252", "cp1253", "cp1254",
  "cp1255", "cp1256", "cp1257", "cp1258", "cp1361", "cp154", "cp273", "cp424", "cp437", "cp500",
  "cp720", "cp737", "cp775", "cp850", "cp852", "cp855", "cp856", "cp857", "cp858", "cp860",
  "cp861", "cp862", "cp863", "cp864", "cp865", "cp866", "cp866u", "cp869", "cp874", "cp875",
  "cp932", "cp936", "cp949", "cp950", "cp_gr", "cp_is", "csbig5", "csibm037", "csibm1026",
  "csibm273", "csibm424", "csibm500", "csibm855", "csibm857", "csibm858", "csibm860",
  "csibm861", "csibm863", "csibm864", "csibm865", "csibm866", "csibm869", "csiso2022jp",
  "csiso2022kr", "csiso58gb231280", "csisolatin2", "csisolatin3", "csisolatin4", "csisolatin5",
  "csisolatin6", "csisolatinarabic", "csisolatincyrillic", "csisolatingreek",
  "csisolatinhebrew", "cskoi8r", "cspc775baltic", "cspc850multilingual", "cspc862latinhebrew",
  "cspc8codepage437", "cspcp852", "csptcp154", "csshiftjis", "cyrillic", "cyrillic_asian",
  "ebcdic_cp_be", "ebcdic_cp_ca", "ebcdic_cp_ch", "ebcdic_cp_he", "ebcdic_cp_nl",
  "ebcdic_cp_us", "ebcdic_cp_wt", "ecma_114", "ecma_118", "elot_928", "euc_cn", "euc_jis2004",
  "euc_jis_2004", "euc_jisx0213", "euc_jp", "euc_kr", "euccn", "eucgb2312_cn", "eucjis2004",
  "eucjisx0213", "eucjp", "euckr", "gb18030", "gb18030_2000", "gb2312", "gb2312_1980",
  "gb2312_80", "gbk", "greek", "greek8", "hebrew", "hkscs", "hp_roman8", "hz", "hz_gb",
  "hz_gb_2312", "hzgb", "ibm037", "ibm039", "ibm1026", "ibm1051", "ibm1125", "ibm1140",
  "ibm273", "ibm424", "ibm437", "ibm500", "ibm775", "ibm850", "ibm852", "ibm855", "ibm857",
  "ibm858", "ibm860", "ibm861", "ibm862", "ibm863", "ibm864", "ibm865", "ibm866", "ibm869",
  "idna", "iso2022_jp", "iso2022_jp_1", "iso2022_jp_2", "iso2022_jp_2004", "iso2022_jp_3",
  "iso2022_jp_ext", "iso2022_kr", "iso2022jp", "iso2022jp_1", "iso2022jp_2", "iso2022jp_2004",
  "iso2022jp_3", "iso2022jp_ext", "iso2022kr", "iso8859_10", "iso8859_11", "iso8859_13",
  "iso8859_14", "iso8859_15", "iso8859_16", "iso8859_2", "iso8859_3", "iso8859_4", "iso8859_5",
  "iso8859_6", "iso8859_7", "iso8859_8", "iso8859_9", "iso_2022_jp", "iso_2022_jp_1",
  "iso_2022_jp_2", "iso_2022_jp_2004", "iso_2022_jp_3", "iso_2022_jp_ext", "iso_2022_kr",
  "iso_8859_10", "iso_8859_10_1992", "iso_8859_11", "iso_8859_11_2001", "iso_8859_13",
  "iso_8859_14", "iso_8859_14_1998", "iso_8859_15", "iso_8859_16", "iso_8859_16_2001",
  "iso_8859_2", "iso_8859_2_1987", "iso_8859_3", "iso_8859_3_1988", "iso_8859_4",
  "iso_8859_4_1988", "iso_8859_5", "iso_8859_5_1988", "iso_8859_6", "iso_8859_6_1987",
  "iso_8859_7", "iso_8859_7_1987", "iso_8859_8", "iso_8859_8_1988", "iso_8859_9",
  "iso_8859_9_1989", "iso_celtic", "iso_ir_101", "iso_ir_109", "iso_ir_110", "iso_ir_126",
  "iso_ir_127", "iso_ir_138", "iso_ir_144", "iso_ir_148", "iso_ir_157", "iso_ir_166",
  "iso_ir_199", "iso_ir_226", "iso_ir_58", "jisx0213", "johab", "koi8_r", "koi8_t", "koi8_u",
  "korean", "ks_c_5601", "ks_c_5601_1987", "ks_x_1001", "ksc5601", "ksx1001", "kz1048",
  "kz_1048", "l10", "l2", "l3", "l4", "l5", "l6", "l7", "l8", "l9", "latin10", "latin2",
  "latin3", "latin4", "latin5", "latin6", "latin7", "latin8", "latin9", "mac_arabic",
  "mac_centeuro", "mac_croatian", "mac_cyrillic", "mac_farsi", "mac_greek", "mac_iceland",
  "mac_latin2", "mac_roman", "mac_romanian", "mac_turkish", "maccentraleurope", "maccyrillic",
  "macgreek", "maciceland", "macintosh", "maclatin2", "macroman", "macturkish", "ms1361",
  "ms932", "ms936", "ms949", "ms950", "ms_kanji", "mskanji", "palmos", "pt154", "ptcp154",
  "punycode", "r8", "raw_unicode_escape", "rk1048", "roman8", "ruscii", "s_jis", "s_jis_2004",
  "s_jisx0213", "shift_jis", "shift_jis_2004", "shift_jisx0213", "shiftjis", "shiftjis2004",
  "shiftjisx0213", "sjis", "sjis_2004", "sjisx0213", "strk1048_2002", "thai", "tis620",
  "tis_620", "tis_620_0", "tis_620_2529_0", "tis_620_2529_1", "u16", "u32", "u7", "u_jis",
  "uhc", "ujis", "undefined", "unicode_1_1_utf_7", "unicode_escape", "unicodebigunmarked",
  "utf16", "utf32", "utf7", "utf_16", "utf_16_be", "utf_16be", "utf_32", "utf_32_be",
  "utf_32_le", "utf_32be", "utf_32le", "utf_7", "windows_1250", "windows_1251", "windows_1252",
  "windows_1253", "windows_1254", "windows_1255", "windows_1256", "windows_1257",
  "windows_1258", "x_mac_japanese", "x_mac_korean", "x_mac_simp_chinese", "x_mac_trad_chinese"]

/-- The names of codings that are not between bytes and text. -/
def codingNames : List String := [
  "base64", "base64_codec", "base_64", "bz2", "bz2_codec", "hex", "hex_codec", "quopri",
  "quopri_codec", "quoted_printable", "quotedprintable", "rot13", "rot_13", "uu", "uu_codec",
  "zip", "zlib", "zlib_codec"]

end Encoding

/-- Why a name does not name an encoding. -/
inductive NamingFault where
  /-- The name holds the null character. -/
  | nullCharacter
  /-- The name is that of a coding that is not between bytes and text. -/
  | notText (name : String)
  /-- No encoding has the name. -/
  | unknown (name : String)
  /-- The encoding is not described here. -/
  | beyond (name : String)
  deriving DecidableEq, Repr

namespace NamingFault

/-- The name of the kind of a fault. -/
def name : NamingFault → String
  | nullCharacter => "ValueError"
  | notText _ => "LookupError"
  | unknown _ => "LookupError"
  | beyond _ => "NotImplementedError"

/-- A fault in words. -/
def message : NamingFault → String
  | nullCharacter => "embedded null character"
  | notText name => "'" ++ name ++
    "' is not a text encoding; use codecs.open() to handle arbitrary codecs"
  | unknown name => "unknown encoding: " ++ name
  | beyond name => "encoding not described: " ++ name

end NamingFault

/-- Why a name that names no encoding does not. -/
def Encoding.faultOf (name : String) : NamingFault :=
  if name.toList.contains '\x00' then .nullCharacter
  else if Encoding.codingNames.contains (Encoding.plainName name) then .notText name
  else if Encoding.otherNames.contains (Encoding.plainName name) then .beyond name
  else .unknown name

/-! ## §2 Faults -/

/-- Bytes that an encoding does not allow. -/
structure DecodingFault where
  /-- The name of the encoding in messages. -/
  codec : String
  /-- The position of the first byte. -/
  first : Nat
  /-- The number of bytes. -/
  count : Nat
  /-- The first byte. -/
  byte : Nat
  reason : String
  deriving DecidableEq, Repr

namespace DecodingFault

/-- A byte in base sixteen. -/
def byteText (n : Nat) : String := String.ofList ('0' :: 'x' :: Text.hexDigits 2 n)

/-- A fault in words. -/
def message (f : DecodingFault) : String :=
  if f.count = 1 then
    "'" ++ f.codec ++ "' codec can't decode byte " ++ byteText f.byte ++ " in position "
      ++ toString f.first ++ ": " ++ f.reason
  else
    "'" ++ f.codec ++ "' codec can't decode bytes in position " ++ toString f.first ++ "-"
      ++ toString (f.first + f.count - 1) ++ ": " ++ f.reason

end DecodingFault

namespace Encoding

/-! ## §3 UTF-8 -/

/-- The byte at a position. -/
def byteAt (b : ByteArray) (i : Nat) : Nat := ((b[i]?).map UInt8.toNat).getD 0

/-- Whether a byte continues a character. -/
def isTail (n : Nat) : Bool := 0x80 ≤ n && n ≤ 0xBF

/-- Whether a byte may come second after a given first one. -/
def isSecond (lead n : Nat) : Bool :=
  isTail n && !(lead == 0xE0 && n < 0xA0) && !(lead == 0xED && 0xA0 ≤ n)
    && !(lead == 0xF0 && n < 0x90) && !(lead == 0xF4 && 0x90 ≤ n)

/-- The number of bytes of a character that starts with a byte. -/
def width? (lead : Nat) : Option Nat :=
  if lead < 0x80 then some 1
  else if lead < 0xC2 then none
  else if lead < 0xE0 then some 2
  else if lead < 0xF0 then some 3
  else if lead < 0xF5 then some 4
  else none

/-- What is wrong with the character at a position, if something is: how many
bytes, and why; otherwise its width. -/
def characterAt (b : ByteArray) (i : Nat) : Except (Nat × String) Nat :=
  let lead := byteAt b i
  match width? lead with
  | none => .error (1, "invalid start byte")
  | some width =>
    let broken := fun n => .error (n, "invalid continuation byte")
    let short := fun (_ : Unit) => .error (b.size - i, "unexpected end of data")
    if width = 1 then .ok 1
    else if b.size ≤ i + 1 then short ()
    else if !isSecond lead (byteAt b (i + 1)) then broken 1
    else if width = 2 then .ok 2
    else if b.size ≤ i + 2 then short ()
    else if !isTail (byteAt b (i + 2)) then broken 2
    else if width = 3 then .ok 3
    else if b.size ≤ i + 3 then short ()
    else if !isTail (byteAt b (i + 3)) then broken 3
    else .ok 4

/-- The first fault of UTF-8 from a position on. -/
def utf8FaultFrom (b : ByteArray) : Nat → Nat → Option DecodingFault
  | 0, _ => none
  | steps + 1, i =>
    if b.size ≤ i then none
    else
      match characterAt b i with
      | .error (count, reason) => some ⟨"utf-8", i, count, byteAt b i, reason⟩
      | .ok width => utf8FaultFrom b steps (i + width)

/-- The first fault of UTF-8. -/
def utf8Fault (b : ByteArray) : DecodingFault :=
  (utf8FaultFrom b b.size 0).getD ⟨"utf-8", 0, 1, byteAt b 0, "invalid start byte"⟩

/-- Text in UTF-8. -/
def utf8Text (b : ByteArray) : Except DecodingFault String :=
  match String.fromUTF8? b with
  | some s => .ok s
  | none => .error (utf8Fault b)

/-! ## §4 UTF-16 -/

/-- The unit at a position, low byte first. -/
def unitAt (b : ByteArray) (i : Nat) : Nat := byteAt b i + 256 * byteAt b (i + 1)

/-- Text in UTF-16 from a position on, after some characters, backwards. -/
def utf16From (b : ByteArray) : Nat → Nat → List Char → Except DecodingFault (List Char)
  | 0, _, done => .ok done
  | steps + 1, i, done =>
    let fault := fun (first count : Nat) (reason : String) =>
      Except.error ⟨"utf-16-le", first, count, byteAt b first, reason⟩
    if b.size ≤ i then .ok done
    else if b.size ≤ i + 1 then fault i (b.size - i) "truncated data"
    else
      let unit := unitAt b i
      if unit < 0xD800 || 0xE000 ≤ unit then utf16From b steps (i + 2) (Char.ofNat unit :: done)
      else if 0xDC00 ≤ unit then fault i 2 "illegal encoding"
      else if b.size ≤ i + 3 then fault i (b.size - i) "unexpected end of data"
      else
        let low := unitAt b (i + 2)
        if low < 0xDC00 || 0xE000 ≤ low then fault i 2 "illegal UTF-16 surrogate"
        else
          let code := 0x10000 + 1024 * (unit - 0xD800) + (low - 0xDC00)
          utf16From b steps (i + 4) (Char.ofNat code :: done)

/-! ## §5 Decoding -/

/-- The byte order mark in UTF-8. -/
def mark : ByteArray := ⟨#[0xEF, 0xBB, 0xBF]⟩

/-- Whether bytes begin with the byte order mark. -/
def isMarked (b : ByteArray) : Bool := (b.extract 0 3).data == mark.data

/-- Whether bytes are nothing but a beginning of the byte order mark. -/
def isPartOfMark (b : ByteArray) : Bool := b.size < 3 && (mark.extract 0 b.size).data == b.data

/-- The first byte beyond ASCII from a position on. -/
def beyondAscii? (b : ByteArray) : Nat → Nat → Option Nat
  | 0, _ => none
  | steps + 1, i =>
    if b.size ≤ i then none
    else if 0x80 ≤ byteAt b i then some i
    else beyondAscii? b steps (i + 1)

/-- The text that bytes hold. -/
def decode (e : Encoding) (b : ByteArray) : Except DecodingFault String :=
  match e with
  | utf8 => utf8Text b
  | utf8Marked =>
    if isPartOfMark b then .ok ""
    else if isMarked b then (utf8Text (b.extract 3 b.size)).mapError fun f =>
      { f with byte := byteAt b (f.first + 3) }
    else utf8Text b
  | latin1 => .ok (String.ofList (b.toList.map fun n => Char.ofNat n.toNat))
  | ascii =>
    match beyondAscii? b b.size 0 with
    | some i => .error ⟨"ascii", i, 1, byteAt b i, "ordinal not in range(128)"⟩
    | none => utf8Text b
  | utf16 => (utf16From b b.size 0 []).map fun done => String.ofList done.reverse

end Encoding

end TreeSift
