/-
# Encodings of documents

A document may declare its encoding by a name, in letters of either case:

| encoding | octets of seven bits | other octets |
| --- | --- | --- |
| UTF-8 | stand for themselves | stand together for characters |
| a code page | stand for themselves | stand for what the page lists |
| of Eastern Asia | stand for themselves | stand together for letters |
| that shifts, UTF-7 | stand for themselves, or together for letters | stand for nothing |
| any other | stand together for characters, or for nothing | the same |

Which letters the octets of the longest Taiwanese encoding stand for does not matter to a document,
so one letter stands for all of them.  The last kind of encoding cannot be declared in characters of
one octet.
-/

import PlotScript.Markup.Name
import PlotScript.Text.Charset

namespace PlotScript
namespace Markup

/-- How the characters of a document are encoded. -/
inductive Encoding where
  | charset (c : Text.Charset)
  | longTaiwanese
  /-- No character is a single octet of seven bits. -/
  | wide
  deriving DecidableEq, Repr

namespace Encoding

/-- The encoding of a document that declares none. -/
def utf8 : Encoding := charset .utf8

/-- The letters of the longest Taiwanese encoding by their planes of 94 rows of 94 cells: the first
place of each run and the one after it. -/
def planes : List (Nat × Text.Ranges) := [
  (1, [(0, 24), (29, 96), (98, 98), (100, 233), (282, 310), (312, 312), (314, 455), (470, 499),
    (571, 571), (578, 578), (583, 583), (3102, 3134), (3290, 8690)]),
  (2, [(0, 7649)]),
  (3, [(0, 6086), (6088, 6147), (6337, 6340), (6342, 6498), (6500, 6538), (6540, 6568),
    (6570, 6577), (6580, 6589)]),
  (4, [(0, 151), (153, 251), (253, 636), (638, 663), (665, 749), (751, 922), (924, 1442),
    (1444, 2220), (2222, 3240), (3242, 3344), (3346, 6227), (6229, 6453), (6455, 7297)]),
  (5, [(0, 229), (231, 7970), (7972, 8602)]),
  (6, [(0, 845), (847, 5559), (5561, 6387)]),
  (7, [(0, 1058), (1060, 3063), (3065, 6538)]),
  (15, [(0, 7168)])]

/-- The octets of a plane. -/
def planeGrid : Text.Grid := ⟨[(0xA1, 0xFE)], [(0xA1, 0xFE)]⟩

/-- Two octets stand for a letter of a plane. -/
def isInPlane (plane : Nat) (a b : UInt8) : Bool :=
  match planes.lookup plane, planeGrid.place? a b with
  | some ranges, some n => ranges.any fun (low, high) => low ≤ n && n ≤ high
  | _, _ => false

/-- The letter that all of them stand for. -/
def letter : Char := '一'

/-- The character at the front of some octets in the longest Taiwanese encoding, and how many it
takes. -/
def longFront? : List UInt8 → Option (List Char × Nat)
  | [] => none
  | a :: r =>
    if a < 0x80 then some ([Char.ofNat a.toNat], 1)
    else match r with
      | b :: c :: d :: _ =>
        if a = 0x8E && isInPlane (b.toNat - 0xA0) c d then some ([letter], 4)
        else if isInPlane 1 a b then some ([letter], 2)
        else none
      | b :: _ => if isInPlane 1 a b then some ([letter], 2) else none
      | [] => none

/-- Encodings with their names in capital letters. -/
def named : List (Encoding × String) := [
  (utf8, "UTF-8 UTF8"),
  (wide, "UTF-16 UTF16 UTF-16LE UTF-16BE UCS-2 UCS2 UCS-2LE UCS-2BE ISO-10646-UCS-2 CSUNICODE " ++
    "UNICODE-1-1 UNICODEBIG CSUNICODE11 UNICODELITTLE UCS-2-INTERNAL UCS-2-SWAPPED UTF-32 " ++
    "UTF-32LE UTF-32BE UCS-4 UCS4 UCS-4LE UCS-4BE ISO-10646-UCS-4 CSUCS4 UCS-4-INTERNAL " ++
    "UCS-4-SWAPPED WCHAR_T"),
  (wide, "JIS_X0208 JIS_X0208-1983 JIS_X0208-1990 JIS0208 X0208 ISO-IR-87 JIS_C6226-1983 " ++
    "CSISO87JISX0208 JIS_X0212 JIS_X0212-1990 X0212 ISO-IR-159 CSISO159JISX02121990 GB_2312-80 " ++
    "ISO-IR-58 CSISO58GB231280 CHINESE ISO-IR-165 CN-GB-ISOIR165 KSC_5601 KS_C_5601-1987 " ++
    "KS_C_5601-1989 ISO-IR-149 CSKSC56011987 KOREAN"),
  (charset .utf7, "UTF-7 UNICODE-1-1-UTF-7 CSUNICODE11UTF7"),
  (charset .ascii, "ASCII US-ASCII US CP367 IBM367 ISO-IR-6 ISO646-US ANSI_X3.4-1968 " ++
    "ANSI_X3.4-1986 CSASCII C99 JAVA ISO-2022-CN ISO-2022-CN-EXT CSISO2022CN"),
  (charset (.page .romanJapanese), "ISO-IR-14 ISO646-JP JIS_C6220-1969-RO JP CSISO14JISC6220RO"),
  (charset (.page .romanChinese), "ISO-IR-57 ISO646-CN GB_1988-80 CN CSISO57GB1988"),
  (charset (.page .narrowJapanese), "JISX0201-1976 JIS_X0201 X0201 CSHALFWIDTHKATAKANA"),
  (charset (.page .latin1), "ISO-8859-1 ISO8859-1 ISO_8859-1 ISO-LATIN-1 LATIN1 L1 CP819 IBM819 " ++
    "ISO-IR-100 CSISOLATIN1"),
  (charset (.page .iso2), "ISO-8859-2 ISO8859-2 ISO_8859-2 LATIN2 L2 ISO-IR-101 CSISOLATIN2"),
  (charset (.page .iso3), "ISO-8859-3 ISO8859-3 ISO_8859-3 LATIN3 L3 ISO-IR-109 CSISOLATIN3"),
  (charset (.page .iso4), "ISO-8859-4 ISO8859-4 ISO_8859-4 LATIN4 L4 ISO-IR-110 CSISOLATIN4"),
  (charset (.page .iso5), "ISO-8859-5 ISO8859-5 ISO_8859-5 CYRILLIC ISO-IR-144 " ++
    "CSISOLATINCYRILLIC"),
  (charset (.page .iso6), "ISO-8859-6 ISO8859-6 ISO_8859-6 ARABIC ASMO-708 ECMA-114 ISO-IR-127 " ++
    "CSISOLATINARABIC"),
  (charset (.page .iso7), "ISO-8859-7 ISO8859-7 ISO_8859-7 GREEK GREEK8 ECMA-118 ELOT_928 " ++
    "ISO-IR-126 CSISOLATINGREEK"),
  (charset (.page .iso8), "ISO-8859-8 ISO8859-8 ISO_8859-8 HEBREW ISO-IR-138 CSISOLATINHEBREW"),
  (charset (.page .iso9), "ISO-8859-9 ISO8859-9 ISO_8859-9 LATIN5 L5 ISO-IR-148 CSISOLATIN5"),
  (charset (.page .iso10), "ISO-8859-10 ISO8859-10 ISO_8859-10 LATIN6 L6 ISO-IR-157 CSISOLATIN6"),
  (charset (.page .iso11), "ISO-8859-11 ISO8859-11 ISO_8859-11"),
  (charset (.page .iso13), "ISO-8859-13 ISO8859-13 ISO_8859-13 LATIN7 L7 ISO-IR-179"),
  (charset (.page .iso14), "ISO-8859-14 ISO8859-14 ISO_8859-14 LATIN8 L8 ISO-IR-199 ISO-CELTIC"),
  (charset (.page .iso15), "ISO-8859-15 ISO8859-15 ISO_8859-15 LATIN-9 ISO-IR-203"),
  (charset (.page .iso16), "ISO-8859-16 ISO8859-16 ISO_8859-16 LATIN10 L10 ISO-IR-226"),
  (charset (.page .windows1250), "CP1250 WINDOWS-1250 MS-EE"),
  (charset (.page .windows1251), "CP1251 WINDOWS-1251 MS-CYRL"),
  (charset (.page .windows1252), "CP1252 WINDOWS-1252 MS-ANSI"),
  (charset (.page .windows1253), "CP1253 WINDOWS-1253 MS-GREEK"),
  (charset (.page .windows1254), "CP1254 WINDOWS-1254 MS-TURK"),
  (charset (.page .windows1255), "CP1255 WINDOWS-1255 MS-HEBR"),
  (charset (.page .windows1256), "CP1256 WINDOWS-1256 MS-ARAB"),
  (charset (.page .windows1257), "CP1257 WINDOWS-1257 WINBALTRIM"),
  (charset (.page .windows1258), "CP1258 WINDOWS-1258"),
  (charset (.page .windows874), "CP874 WINDOWS-874"),
  (charset (.page .dos850), "CP850 IBM850 CSPC850MULTILINGUAL"),
  (charset (.page .dos862), "CP862 IBM862 CSPC862LATINHEBREW"),
  (charset (.page .dos866), "CP866 IBM866 CSIBM866"),
  (charset (.page .dos1131), "CP1131"),
  (charset (.page .dos1133), "CP1133 IBM-CP1133"),
  (charset (.page .koi8r), "KOI8-R CSKOI8R"),
  (charset (.page .koi8u), "KOI8-U"),
  (charset (.page .koi8ru), "KOI8-RU"),
  (charset (.page .koi8t), "KOI8-T"),
  (charset (.page .macRoman), "MACROMAN MACINTOSH MAC CSMACINTOSH"),
  (charset (.page .macLatin2), "MACCENTRALEUROPE"),
  (charset (.page .macIceland), "MACICELAND"),
  (charset (.page .macCroatian), "MACCROATIAN"),
  (charset (.page .macRomanian), "MACROMANIA"),
  (charset (.page .macCyrillic), "MACCYRILLIC"),
  (charset (.page .macUkrainian), "MACUKRAINE"),
  (charset (.page .macGreek), "MACGREEK"),
  (charset (.page .macTurkish), "MACTURKISH"),
  (charset (.page .macHebrew), "MACHEBREW"),
  (charset (.page .macArabic), "MACARABIC"),
  (charset (.page .macThai), "MACTHAI"),
  (charset (.page .roman8), "HP-ROMAN8 ROMAN8 R8 CSHPROMAN8"),
  (charset (.page .nextstep), "NEXTSTEP"),
  (charset (.page .armenian), "ARMSCII-8"),
  (charset (.page .georgianAcademy), "GEORGIAN-ACADEMY"),
  (charset (.page .georgianPs), "GEORGIAN-PS"),
  (charset (.page .kazakh), "KZ-1048 RK1048 STRK1048-2002 CSKZ1048"),
  (charset (.page .cyrillicAsian), "CP154 PT154 PTCP154 CYRILLIC-ASIAN CSPTCP154"),
  (charset (.page .lao), "MULELAO-1"),
  (charset (.page .tis620), "TIS-620 TIS620 TIS620-0 TIS620.2529-1 TIS620.2533-0 TIS620.2533-1 " ++
    "ISO-IR-166"),
  (charset (.page .viscii), "VISCII VISCII1.1-1 CSVISCII"),
  (charset (.page .tcvn), "TCVN TCVN-5712 TCVN5712-1"),
  (charset (.eastAsian .shiftJis), "SHIFT_JIS SHIFT-JIS SJIS MS_KANJI CSSHIFTJIS"),
  (charset (.eastAsian .windows932), "CP932"),
  (charset (.eastAsian .eucJp), "EUC-JP EUCJP EXTENDED_UNIX_CODE_PACKED_FORMAT_FOR_JAPANESE " ++
    "CSEUCPKDFMTJAPANESE"),
  (charset (.shifted .japanese), "ISO-2022-JP CSISO2022JP ISO-2022-JP-MS CP50221"),
  (charset (.shifted .japanese1), "ISO-2022-JP-1"),
  (charset (.shifted .japanese2), "ISO-2022-JP-2 CSISO2022JP2"),
  (charset (.eastAsian .gb2312), "EUC-CN EUCCN GB2312 CN-GB CSGB2312"),
  (charset (.eastAsian .gbk), "GBK CP936 MS936 WINDOWS-936"),
  (charset (.eastAsian .gb18030), "GB18030"),
  (charset (.shifted .hz), "HZ HZ-GB-2312"),
  (longTaiwanese, "EUC-TW EUCTW CSEUCTW"),
  (charset (.eastAsian .big5), "BIG5 BIG-5 BIGFIVE BIG-FIVE CN-BIG5 CSBIG5"),
  (charset (.eastAsian .windows950), "CP950"),
  (charset (.eastAsian .hongKong), "BIG5-HKSCS BIG5HKSCS"),
  (charset (.eastAsian .eucKr), "EUC-KR EUCKR CSEUCKR"),
  (charset (.eastAsian .unified), "CP949 UHC"),
  (charset (.eastAsian .johab), "CP1361 JOHAB"),
  (charset (.shifted .korean), "ISO-2022-KR CSISO2022KR")]

/-- The encoding of a name. -/
def ofName? (name : List Char) : Option Encoding :=
  let name := String.ofList (name.map Char.toUpper)
  (named.find? fun x => (x.2.splitOn " ").contains name).map Prod.fst

/-- What is written for a sign. -/
def written : Option Char → Char
  | none => faulty
  | some c => if c = faulty then forbidden else c

/-- The text of some octets, in which `faulty` is written for each that stands for nothing. -/
def text (e : Encoding) (octets : List UInt8) : List Char :=
  let signs := match e with
    | charset c => c.signs octets
    | longTaiwanese => Text.plainSigns longFront? octets
    | wide => []
  signs.map written

/-- How many octets a character of a text in UTF-8 takes. -/
def sizeInUtf8 (c : Char) : Nat := if c = faulty then 1 else c.utf8Size

example : text utf8 [0x61, 0xFF, 0xEF, 0xBF, 0xBF] = ['a', faulty, forbidden] := by decide +kernel
example : text (charset .ascii) [0x61, 0xE9] = ['a', faulty] := rfl
example : text longTaiwanese [0x61, 0xC4, 0xE3, 0x80] = ['a', '一', faulty] := by decide +kernel

end Encoding
end Markup
end PlotScript
