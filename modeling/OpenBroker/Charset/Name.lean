import OpenBroker.Charset.Bytewise
import OpenBroker.Charset.Escaped
import OpenBroker.Charset.Switched
import OpenBroker.Charset.Utf7
import OpenBroker.Charset.Wide
import OpenBroker.Failure.Basic
import OpenBroker.Text.Punycode

/-!
# Which character set

The set that bytes are in has a name, or it has to be guessed from the bytes.
-/
namespace OpenBroker

/-! ## Character sets by their names

Character sets have many names, which people write in many ways.  Case does not matter,
and neither does punctuation between the words of a name; only the point is a character
of its own, and one of the further names of a set may be written with points in the
place of its punctuation.

Three names are those of what is no character set.  Some bytes, or all, cannot be read by
them at all, not even leniently.
-/

namespace Charset

/-- **How bytes are read.** -/
inductive Method
  /-- In pieces, which may be malformed. -/
  | pieces (decode : List UInt8 → Pieces)
  /-- As ASCII that tells which characters are to be inserted. -/
  | insertions
  /-- Not at all, for a reason. -/
  | refused (reason : Text)

end Charset

/-- **Character set**: its name, its other names, and how bytes are read by it. -/
structure Charset where
  name : String
  others : List String
  method : Charset.Method

namespace Charset

/-! ### All sets -/

/-- The pieces of UTF-8. -/
def piecesOfUtf8 (bytes : List UInt8) : Pieces :=
  (Utf8.pieces none bytes).map fun
    | .point c => some c
    | .bad _ _ => none

/-- The pieces of UTF-8 behind a mark, if there is one. -/
def piecesOfMarkedUtf8 : List UInt8 → Pieces
  | 0xEF :: 0xBB :: 0xBF :: rest => piecesOfUtf8 rest
  | bytes => piecesOfUtf8 bytes

/-- The pieces in the set of the lowest code points, so many of them. -/
def lowest (count : Nat) (bytes : List UInt8) : Pieces :=
  bytes.map fun b => if b.toNat < count then some (CodePoint.ofNat b.toNat) else none

/-- The forms of Unicode. -/
def unicodeSets : List Charset :=
  [⟨"utf_8", ["cp65001", "u8", "utf", "utf8", "utf8_ucs2", "utf8_ucs4"],
    .pieces piecesOfUtf8⟩,
  ⟨"utf_8_sig", [],
    .pieces piecesOfMarkedUtf8⟩,
  ⟨"utf_16", ["u16", "utf16"],
    .pieces Wide.decodeMarked16⟩,
  ⟨"utf_16_be", ["unicodebigunmarked", "utf_16be"],
    .pieces (Wide.decode16 .bigEnd)⟩,
  ⟨"utf_16_le", ["unicodelittleunmarked", "utf_16le"],
    .pieces (Wide.decode16 .smallEnd)⟩,
  ⟨"utf_32", ["u32", "utf32"],
    .pieces Wide.decodeMarked32⟩,
  ⟨"utf_32_be", ["utf_32be"],
    .pieces (Wide.decode32 .bigEnd)⟩,
  ⟨"utf_32_le", ["utf_32le"],
    .pieces (Wide.decode32 .smallEnd)⟩,
  ⟨"utf_7", ["u7", "unicode_1_1_utf_7", "utf7"],
    .pieces Utf7.decode⟩]

/-- The sets that are ranges of Unicode, and the forms of text with escapes. -/
def plainSets : List Charset :=
  [⟨"ascii", ["646", "ansi_x3.4_1968", "ansi_x3.4_1986", "ansi_x3_4_1968", "cp367", "csascii",
      "ibm367", "iso646_us", "iso_646.irv_1991", "iso_ir_6", "us", "us_ascii"],
    .pieces (lowest 0x80)⟩,
  ⟨"latin_1", ["8859", "cp819", "csisolatin1", "ibm819", "iso8859", "iso8859_1", "iso_8859_1",
      "iso_8859_1_1987", "iso_ir_100", "l1", "latin", "latin1"],
    .pieces (lowest 0x100)⟩,
  ⟨"charmap", [],
    .pieces (lowest 0x100)⟩,
  ⟨"unicode_escape", [],
    .pieces Escaped.decode⟩,
  ⟨"raw_unicode_escape", [],
    .pieces Escaped.decodePlain⟩]

/-- The sets of Japanese. -/
def japaneseSets : List Charset :=
  [⟨"euc_jp", ["eucjp", "u_jis", "ujis"],
    .pieces Japanese.decodeExtended⟩,
  ⟨"euc_jis_2004", ["euc_jis2004", "eucjis2004", "jisx0213"],
    .pieces (Japanese.decodeExtended213 true)⟩,
  ⟨"euc_jisx0213", ["eucjisx0213"],
    .pieces (Japanese.decodeExtended213 false)⟩,
  ⟨"shift_jis", ["csshiftjis", "s_jis", "shiftjis", "sjis", "x_mac_japanese"],
    .pieces Japanese.decodeShifted⟩,
  ⟨"shift_jis_2004", ["s_jis_2004", "shiftjis2004", "sjis_2004"],
    .pieces (Japanese.decodeShifted213 true)⟩,
  ⟨"shift_jisx0213", ["s_jisx0213", "shiftjisx0213", "sjisx0213"],
    .pieces (Japanese.decodeShifted213 false)⟩,
  ⟨"cp932", ["932", "ms932", "ms_kanji", "mskanji"],
    .pieces Japanese.decodeWindows⟩,
  ⟨"iso2022_jp", ["csiso2022jp", "iso2022jp", "iso_2022_jp"],
    .pieces Switched.jp.decode⟩,
  ⟨"iso2022_jp_1", ["iso2022jp_1", "iso_2022_jp_1"],
    .pieces Switched.jp1.decode⟩,
  ⟨"iso2022_jp_2", ["iso2022jp_2", "iso_2022_jp_2"],
    .pieces Switched.jp2.decode⟩,
  ⟨"iso2022_jp_3", ["iso2022jp_3", "iso_2022_jp_3"],
    .pieces Switched.jp3.decode⟩,
  ⟨"iso2022_jp_2004", ["iso2022jp_2004", "iso_2022_jp_2004"],
    .pieces Switched.jp2004.decode⟩,
  ⟨"iso2022_jp_ext", ["iso2022jp_ext", "iso_2022_jp_ext"],
    .pieces Switched.jpExtended.decode⟩]

/-- The sets of Chinese. -/
def chineseSets : List Charset :=
  [⟨"gb2312", ["chinese", "csiso58gb231280", "euc_cn", "euccn", "eucgb2312_cn", "gb2312_1980",
      "gb2312_80", "iso_ir_58", "x_mac_simp_chinese"],
    .pieces (Chinese.decodeTwo Chinese.gb2312?)⟩,
  ⟨"gbk", ["936", "cp936", "ms936"],
    .pieces (Chinese.decodeTwo Chinese.gbk?)⟩,
  ⟨"gb18030", ["gb18030_2000"],
    .pieces Chinese.decodeGb18030⟩,
  ⟨"big5", ["big5_tw", "csbig5", "x_mac_trad_chinese"],
    .pieces (Chinese.decodeTwo Chinese.big5?)⟩,
  ⟨"cp950", ["950", "ms950"],
    .pieces (Chinese.decodeTwo Chinese.windowsBig5?)⟩,
  ⟨"big5hkscs", ["big5_hkscs", "hkscs"],
    .pieces Chinese.decodeHongKong⟩,
  ⟨"hz", ["hz_gb", "hz_gb_2312", "hzgb"],
    .pieces Hz.decode⟩]

/-- The sets of Korean. -/
def koreanSets : List Charset :=
  [⟨"euc_kr", ["euckr", "korean", "ks_c_5601", "ks_c_5601_1987", "ks_x_1001", "ksc5601", "ksx1001",
      "x_mac_korean"],
    .pieces Korean.decodeExtended⟩,
  ⟨"cp949", ["949", "ms949", "uhc"],
    .pieces Korean.decodeWindows⟩,
  ⟨"johab", ["cp1361", "ms1361"],
    .pieces Korean.decodeCombining⟩,
  ⟨"iso2022_kr", ["csiso2022kr", "iso2022kr", "iso_2022_kr"],
    .pieces Switched.kr.decode⟩]

/-- The names of what is no set but reads bytes: the writing of any text in ASCII, the names
of hosts, which are read strictly or not at all, and the set that nothing is in. -/
def specialSets : List Charset :=
  [⟨"punycode", [],
    .insertions⟩,
  ⟨"idna", [],
    .refused "Unsupported error handling replace"⟩,
  ⟨"undefined", [],
    .refused "undefined encoding"⟩]

/-- The sets with a byte to a character. -/
def byteSets : List Charset := ByteSet.all.map fun s => ⟨s.name, s.others, .pieces s.decode⟩

/-- **All sets.** -/
def all : List Charset :=
  unicodeSets ++ plainSets ++ byteSets ++ japaneseSets ++ chineseSets ++ koreanSets
    ++ specialSets

/-! ### Names -/

/-- The words of a name in lower case, and a line between each two. -/
def plainName (name : Text) : Text :=
  let isKept (c : CodePoint) : Bool := c.isAsciiLetter || c.isAsciiDigit || c == '.'
  let spaced := (Text.asciiLower name).map fun c => if isKept c then c else ' '
  Text.join "_" ((Text.split ' ' spaced).filter fun word => !word.isEmpty)

/-- **The set of a name**, if it is known. -/
def ofName? (name : Text) : Option Charset :=
  let plain := plainName name
  let further (t : Text) : Option Charset := all.find? (·.others.contains (Text.toString t))
  let pointless := plain.map fun (c : CodePoint) => if c = '.' then ('_' : CodePoint) else c
  ((further plain).or (further pointless)).or (all.find? (·.name == Text.toString plain))

/-! ### Reading -/

/-- The failure of a byte that is not one of ASCII. -/
def notAscii (bytes : List UInt8) (position : Nat) : Failure :=
  .raised (.named "UnicodeDecodeError")
    [.text "ascii", .bytes bytes, .int position, .int (position + 1),
      .text "ordinal not in range(128)"]

/-- Reads a text by its insertions, which come behind the last hyphen and have to be
ASCII. -/
def readInsertions (bytes : List UInt8) : Except Failure Text :=
  let digits := (bytes.reverse.takeWhile (· != 0x2D)).reverse
  match digits.findIdx? (0x80 ≤ ·) with
  | some i => .error (notAscii digits i)
  | none => .ok ((Punycode.decode? (some 0x3F) (lowest 0x80 bytes).lenient).getD [])

/-- The failure of a set, called by some name, that cannot be used for a reason. -/
def unusable (name reason : Text) : Failure :=
  Failure.standard "UnicodeError"
    ("decoding with '" ++ name ++ "' codec failed (UnicodeError: " ++ reason ++ ")")

/-- **Lenient reading** of bytes by a set that was called by some name. -/
def read (s : Charset) (name : Text) (bytes : List UInt8) : Except Failure Text :=
  match s.method with
  | .pieces decode => .ok (decode bytes).lenient
  | .insertions => readInsertions bytes
  | .refused reason => .error (unusable name reason)

end Charset

/-! ## Bytes without a named set

Bytes whose character set nobody has named are some form of Unicode.  A mark at their
beginning tells which.  A document without a mark tells it too: it begins with two
characters of ASCII, so the bytes that are zero among the first four show how long its
units are and in which order their bytes come.
-/

namespace Charset

/-- The form of Unicode that a mark at the beginning tells. -/
def ofMark? : List UInt8 → Option (List UInt8 → Pieces)
  | 0xFF :: 0xFE :: 0x00 :: 0x00 :: _ => some Wide.decodeMarked32
  | 0x00 :: 0x00 :: 0xFE :: 0xFF :: _ => some Wide.decodeMarked32
  | 0xEF :: 0xBB :: 0xBF :: _ => some piecesOfMarkedUtf8
  | 0xFF :: 0xFE :: _ => some Wide.decodeMarked16
  | 0xFE :: 0xFF :: _ => some Wide.decodeMarked16
  | _ => none

/-- The form of Unicode that the zeros among the first four bytes tell. -/
def ofZeros? : List UInt8 → Option (List UInt8 → Pieces)
  | a :: b :: c :: d :: _ =>
    match a == 0, b == 0, c == 0, d == 0 with
    | false, false, false, false => some piecesOfUtf8
    | true, false, true, false => some (Wide.decode16 .bigEnd)
    | false, true, false, true => some (Wide.decode16 .smallEnd)
    | true, true, true, false => some (Wide.decode32 .bigEnd)
    | false, true, true, true => some (Wide.decode32 .smallEnd)
    | _, _, _, _ => none
  | _ => none

/-- **A document** of at least four bytes as a text, if they are well-formed in the form that
they seem to have. -/
def documentText? (bytes : List UInt8) : Option Text :=
  if bytes.length < 4 then none
  else ((ofMark? bytes).or (ofZeros? bytes)).bind fun decode => (decode bytes).strict?

/-- **Any bytes** as a text: in the form of their mark, if they are well-formed in it, and
as UTF-8 otherwise. -/
def anyText (bytes : List UInt8) : Text :=
  ((ofMark? bytes).bind fun decode => (decode bytes).strict?).getD (Utf8.decodeLossy bytes)

end Charset
end OpenBroker
