/-
# Encodings of configuration files

A configuration file may declare its encoding in a comment on its first or second line: `coding`,
then `:` or `=`, then a name.  The line before must hold no more than a comment.  Names differ
neither in case nor in what stands between their letters and digits.

| declared | read as |
| --- | --- |
| nothing | UTF-8, where comments need not be well formed |
| UTF-8, or a mark at the beginning | the same |
| another known name | that encoding, as a whole |
| another name, or any but UTF-8 after a mark | not at all |
-/

import PlotScript.Text.Charset

namespace PlotScript
namespace Config

/-- A blank between the parts of a line. -/
def isGap (c : Char) : Bool := c == ' ' || c == '\t' || c == '\x0c'

/-- Encodings with their names in small letters. -/
def encodings : List (Text.Charset × String) := [
  (.utf8, "cp65001 u8 utf utf8 utf8_ucs2 utf8_ucs4 utf_8 utf_8_sig"),
  (.utf7, "u7 unicode_1_1_utf_7 utf7 utf_7"),
  (.utf16 false, "u16 unicodelittleunmarked utf16 utf_16 utf_16_le utf_16le"),
  (.utf16 true, "unicodebigunmarked utf_16_be utf_16be"),
  (.page .latin1, "8859 cp819 csisolatin1 ibm819 iso8859 iso8859_1 iso_8859_1 iso_8859_1_1987 " ++
    "iso_ir_100 l1 latin latin1 latin_1 charmap"),
  (.page .ascii, "646 ansi_x3.4_1968 ansi_x3.4_1986 ansi_x3_4_1968 ascii cp367 csascii ibm367 " ++
    "iso646_us iso_646.irv_1991 iso_ir_6 us us_ascii"),
  (.page .iso2, "csisolatin2 iso8859_2 iso_8859_2 iso_8859_2_1987 iso_ir_101 l2 latin2"),
  (.page .iso3, "csisolatin3 iso8859_3 iso_8859_3 iso_8859_3_1988 iso_ir_109 l3 latin3"),
  (.page .iso4, "csisolatin4 iso8859_4 iso_8859_4 iso_8859_4_1988 iso_ir_110 l4 latin4"),
  (.page .iso5, "csisolatincyrillic cyrillic iso8859_5 iso_8859_5 iso_8859_5_1988 iso_ir_144"),
  (.page .iso6, "arabic asmo_708 csisolatinarabic ecma_114 iso8859_6 iso_8859_6 " ++
    "iso_8859_6_1987 iso_ir_127"),
  (.page .iso7, "csisolatingreek ecma_118 elot_928 greek greek8 iso8859_7 iso_8859_7 " ++
    "iso_8859_7_1987 iso_ir_126"),
  (.page .iso8, "csisolatinhebrew hebrew iso8859_8 iso_8859_8 iso_8859_8_1988 iso_ir_138"),
  (.page .iso9, "csisolatin5 iso8859_9 iso_8859_9 iso_8859_9_1989 iso_ir_148 l5 latin5"),
  (.page .iso10, "csisolatin6 iso8859_10 iso_8859_10 iso_8859_10_1992 iso_ir_157 l6 latin6"),
  (.page .iso11, "iso8859_11 iso_8859_11 iso_8859_11_2001 thai"),
  (.page .iso13, "iso8859_13 iso_8859_13 l7 latin7"),
  (.page .iso14, "iso8859_14 iso_8859_14 iso_8859_14_1998 iso_celtic iso_ir_199 l8 latin8"),
  (.page .iso15, "iso8859_15 iso_8859_15 l9 latin9"),
  (.page .iso16, "iso8859_16 iso_8859_16 iso_8859_16_2001 iso_ir_226 l10 latin10"),
  (.page .windows1250, "1250 cp1250 windows_1250"),
  (.page .windows1251, "1251 cp1251 windows_1251"),
  (.page .windows1252, "1252 cp1252 windows_1252"),
  (.page .windows1253, "1253 cp1253 windows_1253"),
  (.page .windows1254, "1254 cp1254 windows_1254"),
  (.page .windows1255, "1255 cp1255 windows_1255"),
  (.page .windows1256, "1256 cp1256 windows_1256"),
  (.page .windows1257, "1257 cp1257 windows_1257"),
  (.page .windows1258, "1258 cp1258 windows_1258"),
  (.page .windows874, "cp874"),
  (.page .dos437, "437 cp437 cspc8codepage437 ibm437"),
  (.page .dos720, "cp720"),
  (.page .dos737, "cp737"),
  (.page .dos775, "775 cp775 cspc775baltic ibm775"),
  (.page .dos850, "850 cp850 cspc850multilingual ibm850"),
  (.page .dos852, "852 cp852 cspcp852 ibm852"),
  (.page .dos855, "855 cp855 csibm855 ibm855"),
  (.page .dos857, "857 cp857 csibm857 ibm857"),
  (.page .dos858, "858 cp858 csibm858 ibm858"),
  (.page .dos860, "860 cp860 csibm860 ibm860"),
  (.page .dos861, "861 cp861 cp_is csibm861 ibm861"),
  (.page .dos862, "862 cp862 cspc862latinhebrew ibm862"),
  (.page .dos863, "863 cp863 csibm863 ibm863"),
  (.page .dos865, "865 cp865 csibm865 ibm865"),
  (.page .dos866, "866 cp866 csibm866 ibm866"),
  (.page .dos869, "869 cp869 cp_gr csibm869 ibm869"),
  (.page .dos1125, "1125 cp1125 cp866u ibm1125 ruscii"),
  (.page .koi8r, "cskoi8r koi8_r"),
  (.page .koi8u, "koi8_u"),
  (.page .koi8t, "koi8_t"),
  (.page .macRoman, "mac_roman macintosh macroman"),
  (.page .macCyrillic, "mac_cyrillic maccyrillic"),
  (.page .macGreek, "mac_greek macgreek"),
  (.page .macIceland, "mac_iceland maciceland"),
  (.page .macLatin2, "mac_centeuro mac_latin2 maccentraleurope maclatin2"),
  (.page .macTurkish, "mac_turkish macturkish"),
  (.page .roman8, "cp1051 hp_roman8 ibm1051 r8 roman8"),
  (.page .kazakh, "kz1048 kz_1048 rk1048 strk1048_2002"),
  (.page .cyrillicAsian, "cp154 csptcp154 cyrillic_asian pt154 ptcp154"),
  (.page .tis620, "iso_ir_166 tis620 tis_620 tis_620_0 tis_620_2529_0 tis_620_2529_1"),
  (.eastAsian .gb2312, "chinese csiso58gb231280 euc_cn euccn eucgb2312_cn gb2312 gb2312_1980 " ++
    "gb2312_80 iso_ir_58 x_mac_simp_chinese"),
  (.eastAsian .gbk, "936 cp936 gbk ms936"),
  (.eastAsian .gb18030, "gb18030 gb18030_2000"),
  (.eastAsian .big5, "big5 big5_tw csbig5 x_mac_trad_chinese"),
  (.eastAsian .windows950, "950 cp950 ms950"),
  (.eastAsian .hongKong, "big5_hkscs big5hkscs hkscs"),
  (.eastAsian .shiftJis, "csshiftjis s_jis shift_jis shiftjis sjis x_mac_japanese"),
  (.eastAsian .windows932, "932 cp932 ms932 ms_kanji mskanji"),
  (.eastAsian (.shiftJisx0213 .first), "s_jisx0213 shift_jisx0213 shiftjisx0213 sjisx0213"),
  (.eastAsian (.shiftJisx0213 .second), "s_jis_2004 shift_jis_2004 shiftjis2004 sjis_2004"),
  (.eastAsian .eucJp, "euc_jp eucjp u_jis ujis"),
  (.eastAsian (.eucJisx0213 .first), "euc_jisx0213 eucjisx0213"),
  (.eastAsian (.eucJisx0213 .second), "euc_jis2004 euc_jis_2004 eucjis2004 jisx0213"),
  (.eastAsian .eucKr, "euc_kr euckr korean ks_c_5601 ks_c_5601_1987 ks_x_1001 ksc5601 ksx1001 " ++
    "x_mac_korean"),
  (.eastAsian .unified, "949 cp949 ms949 uhc"),
  (.eastAsian .johab, "cp1361 johab ms1361"),
  (.shifted .hz, "hz hz_gb hz_gb_2312 hzgb"),
  (.shifted .japanese, "csiso2022jp iso2022_jp iso2022jp iso_2022_jp"),
  (.shifted .japanese1, "iso2022_jp_1 iso2022jp_1 iso_2022_jp_1"),
  (.shifted .japanese2, "iso2022_jp_2 iso2022jp_2 iso_2022_jp_2"),
  (.shifted .japanese3, "iso2022_jp_3 iso2022jp_3 iso_2022_jp_3"),
  (.shifted .japanese2004, "iso2022_jp_2004 iso2022jp_2004 iso_2022_jp_2004"),
  (.shifted .japaneseExtended, "iso2022_jp_ext iso2022jp_ext iso_2022_jp_ext"),
  (.shifted .korean, "csiso2022kr iso2022_kr iso2022kr iso_2022_kr"),
  (.page .macArabic, "mac_arabic"),
  (.page .macCroatian, "mac_croatian"),
  (.page .macFarsi, "mac_farsi"),
  (.page .macRomanian, "mac_romanian"),
  (.page .palm, "palmos"),
  (.page .dos1006, "cp1006"),
  (.page .dos856, "cp856"),
  (.page .ascii, "idna"),
  (.escaped true, "raw_unicode_escape"),
  (.escaped false, "unicode_escape")]

/-- A name in small letters, with one underscore for all that stands between its parts. -/
def plainName : List Char → List Char
  | [] => []
  | c :: r =>
    if c.isAlphanum || c == '.' then c.toLower :: plainName r
    else match plainName r with
      | [] => []
      | '_' :: s => '_' :: s
      | s => '_' :: s

/-- The encoding of a name. -/
def encoding? (name : List Char) : Option Text.Charset :=
  let plain := String.ofList ((plainName name).dropWhile (· == '_'))
  let names := [plain, plain.map fun c => if c = '.' then '_' else c]
  let known (l : String) : Bool := (l.splitOn " ").any names.contains
  (encodings.find? fun x => known x.2).map Prod.fst

/-- The name of an encoding that a line declares. -/
def declaredAfter : List Char → Option (List Char)
  | [] => none
  | c :: r =>
    let isNameChar (c : Char) : Bool := c.isAlphanum || c == '-' || c == '_' || c == '.'
    match if "coding".toList.isPrefixOf (c :: r) then (c :: r).drop 6 else [] with
    | ':' :: s | '=' :: s =>
      let name := (s.dropWhile fun c => c == ' ' || c == '\t').takeWhile isNameChar
      if name.isEmpty then declaredAfter r else some name
    | _ => declaredAfter r

/-- The name of an encoding that a line declares in a comment. -/
def declaredOn (line : List Char) : Option (List Char) :=
  match line.dropWhile isGap with
  | '#' :: r => declaredAfter r
  | _ => none

/-- A line that holds no more than a comment. -/
def isComment (line : List Char) : Bool :=
  match line.dropWhile isGap with
  | [] => true
  | c :: _ => c == '#'

/-- The name of an encoding that the first lines declare. -/
def declared? : List (List Char) → Option (List Char)
  | [] => none
  | first :: r =>
    match declaredOn first with
    | some name => some name
    | none => if isComment first then r.head?.bind declaredOn else none

/-- How many characters of a name are looked at for the two most common encodings. -/
def lookedAt : Nat := 12

/-- A name is this one, or this one with an ending. -/
def isCommon (name : List Char) (common : String) : Bool :=
  let front := (name.take lookedAt).map fun c => if c = '_' then '-' else c.toLower
  front = common.toList || (common ++ "-").toList.isPrefixOf front

/-- A name of UTF-8. -/
def isUtf8 (name : List Char) : Bool := isCommon name "utf-8"

/-- A name of the encoding for Western Europe. -/
def isLatin1 (name : List Char) : Bool :=
  ["latin-1", "iso-8859-1", "iso-latin-1"].any (isCommon name)

/-- The encoding that a name declares, if it is not UTF-8. -/
def declaredCharset? (name : List Char) : Option Text.Charset :=
  if isLatin1 name then some (.page .latin1) else encoding? name

example : declared? ["# -*- coding: Latin-1 -*-".toList] = some "Latin-1".toList := by
  decide +kernel
example : declared? ["".toList, "#coding=x".toList] = some "x".toList := by decide +kernel
example : declared? ["a = 1".toList, "# coding: x".toList] = none := by decide +kernel
example : plainName "ISO--8859-1".toList = "iso_8859_1".toList := by decide +kernel

end Config
end PlotScript
