import SuiteTrigger.Encoding.Charset
import SuiteTrigger.Encoding.CodePage.Dos
import SuiteTrigger.Encoding.CodePage.Ebcdic
import SuiteTrigger.Encoding.CodePage.Iso
import SuiteTrigger.Encoding.CodePage.Macintosh
import SuiteTrigger.Encoding.CodePage.Regional
import SuiteTrigger.Encoding.CodePage.Windows
import SuiteTrigger.Text.Split

/-!
# Names of charsets

A charset has a name of its own and may have further ones. Names are compared in a normal form:
ASCII letters in lower case, with one underscore for whatever stands between two runs of letters,
digits and points. In a further name a point counts as an underscore.
-/

namespace SuiteTrigger.Charset

/-- A charset with its own name and its further ones, in normal form. -/
structure Naming where
  charset : Charset
  own : String
  others : List String

def unicodeNames : List Naming :=
  [⟨.utf8, "utf_8", ["cp65001", "u8", "utf", "utf8", "utf8_ucs2", "utf8_ucs4"]⟩,
   ⟨.utf8Marked, "utf_8_sig", []⟩,
   ⟨.utf7, "utf_7", ["u7", "unicode_1_1_utf_7", "utf7"]⟩,
   ⟨.ascii, "ascii",
    ["646", "ansi_x3.4_1968", "ansi_x3.4_1986", "ansi_x3_4_1968", "cp367", "csascii", "ibm367",
     "iso646_us", "iso_646.irv_1991", "iso_ir_6", "us", "us_ascii"]⟩,
   ⟨.latin1, "latin_1",
    ["8859", "cp819", "csisolatin1", "ibm819", "iso8859", "iso8859_1", "iso_8859_1",
     "iso_8859_1_1987", "iso_ir_100", "l1", "latin", "latin1"]⟩,
   ⟨.latin1, "iso8859_1", []⟩,
   ⟨.latin1, "charmap", []⟩,
   ⟨.utf16, "utf_16", ["u16", "utf16"]⟩,
   ⟨.utf16Ordered .little, "utf_16_le", ["unicodelittleunmarked", "utf_16le"]⟩,
   ⟨.utf16Ordered .big, "utf_16_be", ["unicodebigunmarked", "utf_16be"]⟩,
   ⟨.utf32, "utf_32", ["u32", "utf32"]⟩,
   ⟨.utf32Ordered .little, "utf_32_le", ["utf_32le"]⟩,
   ⟨.utf32Ordered .big, "utf_32_be", ["utf_32be"]⟩,
   ⟨.escaped .full, "unicode_escape", []⟩,
   ⟨.escaped .plain, "raw_unicode_escape", []⟩,
   ⟨.punycode, "punycode", []⟩,
   ⟨.domainName, "idna", []⟩]

def pageNames : List Naming :=
  [⟨.page CodePage.Iso.part2, "iso8859_2",
    ["csisolatin2", "iso_8859_2", "iso_8859_2_1987", "iso_ir_101", "l2", "latin2"]⟩,
   ⟨.page CodePage.Iso.part3, "iso8859_3",
    ["csisolatin3", "iso_8859_3", "iso_8859_3_1988", "iso_ir_109", "l3", "latin3"]⟩,
   ⟨.page CodePage.Iso.part4, "iso8859_4",
    ["csisolatin4", "iso_8859_4", "iso_8859_4_1988", "iso_ir_110", "l4", "latin4"]⟩,
   ⟨.page CodePage.Iso.part5, "iso8859_5",
    ["csisolatincyrillic", "cyrillic", "iso_8859_5", "iso_8859_5_1988", "iso_ir_144"]⟩,
   ⟨.page CodePage.Iso.part6, "iso8859_6",
    ["arabic", "asmo_708", "csisolatinarabic", "ecma_114", "iso_8859_6", "iso_8859_6_1987",
     "iso_ir_127"]⟩,
   ⟨.page CodePage.Iso.part7, "iso8859_7",
    ["csisolatingreek", "ecma_118", "elot_928", "greek", "greek8", "iso_8859_7",
     "iso_8859_7_1987", "iso_ir_126"]⟩,
   ⟨.page CodePage.Iso.part8, "iso8859_8",
    ["csisolatinhebrew", "hebrew", "iso_8859_8", "iso_8859_8_1988", "iso_ir_138"]⟩,
   ⟨.page CodePage.Iso.part9, "iso8859_9",
    ["csisolatin5", "iso_8859_9", "iso_8859_9_1989", "iso_ir_148", "l5", "latin5"]⟩,
   ⟨.page CodePage.Iso.part10, "iso8859_10",
    ["csisolatin6", "iso_8859_10", "iso_8859_10_1992", "iso_ir_157", "l6", "latin6"]⟩,
   ⟨.page CodePage.Iso.part11, "iso8859_11", ["iso_8859_11", "iso_8859_11_2001", "thai"]⟩,
   ⟨.page CodePage.Iso.part13, "iso8859_13", ["iso_8859_13", "l7", "latin7"]⟩,
   ⟨.page CodePage.Iso.part14, "iso8859_14",
    ["iso_8859_14", "iso_8859_14_1998", "iso_celtic", "iso_ir_199", "l8", "latin8"]⟩,
   ⟨.page CodePage.Iso.part15, "iso8859_15", ["iso_8859_15", "l9", "latin9"]⟩,
   ⟨.page CodePage.Iso.part16, "iso8859_16",
    ["iso_8859_16", "iso_8859_16_2001", "iso_ir_226", "l10", "latin10"]⟩,
   ⟨.page CodePage.Iso.tis620, "tis_620",
    ["iso_ir_166", "tis620", "tis_620_0", "tis_620_2529_0", "tis_620_2529_1"]⟩,
   ⟨.page CodePage.Windows.cp874, "cp874", []⟩,
   ⟨.page CodePage.Windows.cp1250, "cp1250", ["1250", "windows_1250"]⟩,
   ⟨.page CodePage.Windows.cp1251, "cp1251", ["1251", "windows_1251"]⟩,
   ⟨.page CodePage.Windows.cp1252, "cp1252", ["1252", "windows_1252"]⟩,
   ⟨.page CodePage.Windows.cp1253, "cp1253", ["1253", "windows_1253"]⟩,
   ⟨.page CodePage.Windows.cp1254, "cp1254", ["1254", "windows_1254"]⟩,
   ⟨.page CodePage.Windows.cp1255, "cp1255", ["1255", "windows_1255"]⟩,
   ⟨.page CodePage.Windows.cp1256, "cp1256", ["1256", "windows_1256"]⟩,
   ⟨.page CodePage.Windows.cp1257, "cp1257", ["1257", "windows_1257"]⟩,
   ⟨.page CodePage.Windows.cp1258, "cp1258", ["1258", "windows_1258"]⟩,
   ⟨.page CodePage.Dos.cp437, "cp437", ["437", "cspc8codepage437", "ibm437"]⟩,
   ⟨.page CodePage.Dos.cp720, "cp720", []⟩,
   ⟨.page CodePage.Dos.cp737, "cp737", []⟩,
   ⟨.page CodePage.Dos.cp775, "cp775", ["775", "cspc775baltic", "ibm775"]⟩,
   ⟨.page CodePage.Dos.cp850, "cp850", ["850", "cspc850multilingual", "ibm850"]⟩,
   ⟨.page CodePage.Dos.cp852, "cp852", ["852", "cspcp852", "ibm852"]⟩,
   ⟨.page CodePage.Dos.cp855, "cp855", ["855", "csibm855", "ibm855"]⟩,
   ⟨.page CodePage.Dos.cp856, "cp856", []⟩,
   ⟨.page CodePage.Dos.cp857, "cp857", ["857", "csibm857", "ibm857"]⟩,
   ⟨.page CodePage.Dos.cp858, "cp858", ["858", "csibm858", "ibm858"]⟩,
   ⟨.page CodePage.Dos.cp860, "cp860", ["860", "csibm860", "ibm860"]⟩,
   ⟨.page CodePage.Dos.cp861, "cp861", ["861", "cp_is", "csibm861", "ibm861"]⟩,
   ⟨.page CodePage.Dos.cp862, "cp862", ["862", "cspc862latinhebrew", "ibm862"]⟩,
   ⟨.page CodePage.Dos.cp863, "cp863", ["863", "csibm863", "ibm863"]⟩,
   ⟨.page CodePage.Dos.cp864, "cp864", ["864", "csibm864", "ibm864"]⟩,
   ⟨.page CodePage.Dos.cp865, "cp865", ["865", "csibm865", "ibm865"]⟩,
   ⟨.page CodePage.Dos.cp866, "cp866", ["866", "csibm866", "ibm866"]⟩,
   ⟨.page CodePage.Dos.cp869, "cp869", ["869", "cp_gr", "csibm869", "ibm869"]⟩,
   ⟨.page CodePage.Dos.cp1125, "cp1125", ["1125", "cp866u", "ibm1125", "ruscii"]⟩,
   ⟨.page CodePage.Macintosh.macArabic, "mac_arabic", []⟩,
   ⟨.page CodePage.Macintosh.macCroatian, "mac_croatian", []⟩,
   ⟨.page CodePage.Macintosh.macCyrillic, "mac_cyrillic", ["maccyrillic"]⟩,
   ⟨.page CodePage.Macintosh.macFarsi, "mac_farsi", []⟩,
   ⟨.page CodePage.Macintosh.macGreek, "mac_greek", ["macgreek"]⟩,
   ⟨.page CodePage.Macintosh.macIceland, "mac_iceland", ["maciceland"]⟩,
   ⟨.page CodePage.Macintosh.macLatin2, "mac_latin2",
    ["mac_centeuro", "maccentraleurope", "maclatin2"]⟩,
   ⟨.page CodePage.Macintosh.macRoman, "mac_roman", ["macintosh", "macroman"]⟩,
   ⟨.page CodePage.Macintosh.macRomanian, "mac_romanian", []⟩,
   ⟨.page CodePage.Macintosh.macTurkish, "mac_turkish", ["macturkish"]⟩,
   ⟨.page CodePage.Ebcdic.cp037, "cp037",
    ["037", "csibm037", "ebcdic_cp_ca", "ebcdic_cp_nl", "ebcdic_cp_us", "ebcdic_cp_wt", "ibm037",
     "ibm039"]⟩,
   ⟨.page CodePage.Ebcdic.cp273, "cp273", ["273", "csibm273", "ibm273"]⟩,
   ⟨.page CodePage.Ebcdic.cp424, "cp424", ["424", "csibm424", "ebcdic_cp_he", "ibm424"]⟩,
   ⟨.page CodePage.Ebcdic.cp500, "cp500",
    ["500", "csibm500", "ebcdic_cp_be", "ebcdic_cp_ch", "ibm500"]⟩,
   ⟨.page CodePage.Ebcdic.cp875, "cp875", []⟩,
   ⟨.page CodePage.Ebcdic.cp1026, "cp1026", ["1026", "csibm1026", "ibm1026"]⟩,
   ⟨.page CodePage.Ebcdic.cp1140, "cp1140", ["1140", "ibm1140"]⟩,
   ⟨.page CodePage.Regional.cp1006, "cp1006", []⟩,
   ⟨.page CodePage.Regional.hpRoman8, "hp_roman8",
    ["cp1051", "csHPRoman8", "ibm1051", "r8", "roman8"]⟩,
   ⟨.page CodePage.Regional.koi8R, "koi8_r", ["cskoi8r"]⟩,
   ⟨.page CodePage.Regional.koi8T, "koi8_t", []⟩,
   ⟨.page CodePage.Regional.koi8U, "koi8_u", []⟩,
   ⟨.page CodePage.Regional.kz1048, "kz1048", ["kz_1048", "rk1048", "strk1048_2002"]⟩,
   ⟨.page CodePage.Regional.palmos, "palmos", []⟩,
   ⟨.page CodePage.Regional.ptcp154, "ptcp154",
    ["cp154", "csptcp154", "cyrillic_asian", "pt154"]⟩]

def multibyteNames : List Naming :=
  [⟨.multibyte .shiftJis, "shift_jis",
    ["csshiftjis", "s_jis", "shiftjis", "sjis", "x_mac_japanese"]⟩,
   ⟨.multibyte .shiftJisWindows, "cp932", ["932", "ms932", "ms_kanji", "mskanji"]⟩,
   ⟨.multibyte (.shiftJisExtended .first), "shift_jisx0213",
    ["s_jisx0213", "shiftjisx0213", "sjisx0213"]⟩,
   ⟨.multibyte (.shiftJisExtended .revised), "shift_jis_2004",
    ["s_jis_2004", "shiftjis2004", "sjis_2004"]⟩,
   ⟨.multibyte .eucJapanese, "euc_jp", ["eucjp", "u_jis", "ujis"]⟩,
   ⟨.multibyte (.eucJapaneseExtended .first), "euc_jisx0213", ["eucjisx0213"]⟩,
   ⟨.multibyte (.eucJapaneseExtended .revised), "euc_jis_2004",
    ["euc_jis2004", "eucjis2004", "jisx0213"]⟩,
   ⟨.multibyte .chinese, "gb2312",
    ["chinese", "csiso58gb231280", "euc_cn", "euccn", "eucgb2312_cn", "gb2312_1980", "gb2312_80",
     "iso_ir_58", "x_mac_simp_chinese"]⟩,
   ⟨.multibyte .chineseExtended, "gbk", ["936", "cp936", "ms936"]⟩,
   ⟨.multibyte .chineseFull, "gb18030", ["gb18030_2000"]⟩,
   ⟨.multibyte .big5, "big5", ["big5_tw", "csbig5", "x_mac_trad_chinese"]⟩,
   ⟨.multibyte .big5Windows, "cp950", ["950", "ms950"]⟩,
   ⟨.multibyte .big5HongKong, "big5hkscs", ["big5_hkscs", "hkscs"]⟩,
   ⟨.multibyte .eucKorean, "euc_kr",
    ["euckr", "korean", "ks_c_5601", "ks_c_5601_1987", "ks_x_1001", "ksc5601", "ksx1001",
     "x_mac_korean"]⟩,
   ⟨.multibyte .koreanExtended, "cp949", ["949", "ms949", "uhc"]⟩,
   ⟨.multibyte .koreanComposed, "johab", ["cp1361", "ms1361"]⟩,
   ⟨.hanSection, "hz", ["hz_gb", "hz_gb_2312", "hzgb"]⟩,
   ⟨.iso2022 .japanese, "iso2022_jp", ["csiso2022jp", "iso2022jp", "iso_2022_jp"]⟩,
   ⟨.iso2022 .japaneseSupplemented, "iso2022_jp_1", ["iso2022jp_1", "iso_2022_jp_1"]⟩,
   ⟨.iso2022 .japaneseInternational, "iso2022_jp_2", ["iso2022jp_2", "iso_2022_jp_2"]⟩,
   ⟨.iso2022 (.japaneseExtended .first), "iso2022_jp_3", ["iso2022jp_3", "iso_2022_jp_3"]⟩,
   ⟨.iso2022 (.japaneseExtended .revised), "iso2022_jp_2004",
    ["iso2022jp_2004", "iso_2022_jp_2004"]⟩,
   ⟨.iso2022 .japaneseKana, "iso2022_jp_ext", ["iso2022jp_ext", "iso_2022_jp_ext"]⟩,
   ⟨.iso2022 .korean, "iso2022_kr", ["csiso2022kr", "iso2022kr", "iso_2022_kr"]⟩]

/-- The conversions that are no charsets, by their own names and further ones. -/
def conversions : List (String × List String) :=
  [("base64_codec", ["base64", "base_64"]), ("bz2_codec", ["bz2"]), ("hex_codec", ["hex"]),
   ("quopri_codec", ["quopri", "quoted_printable", "quotedprintable"]),
   ("rot_13", ["rot13"]), ("uu_codec", ["uu"]), ("zlib_codec", ["zip", "zlib"])]

/-- The name of a charset in which no bytes are text. -/
def unusableName : String := "undefined"

def isNameChar (c : Char) : Bool := c.isAlphanum || c = '.'

def normalName (name : String) : String :=
  let spaced := name.toList.map fun c => if isNameChar c then c.toLower else ' '
  let words := (Text.splitOn ' ' spaced).filter (!·.isEmpty)
  "_".intercalate (words.map String.ofList)

def withoutPoints (name : String) : String :=
  String.ofList (name.toList.map fun c => if c = '.' then '_' else c)

def isName (name own : String) (others : List String) : Bool :=
  others.contains name || others.contains (withoutPoints name) || own = name

/-- Why a name gives no charset. -/
inductive NameFault where
  | unknown (name : String)
  | conversion (name : String)
  | unusable (name : String)
  /-- A name with a zero character in it. -/
  | zero
  deriving DecidableEq

def namings : List Naming := unicodeNames ++ pageNames ++ multibyteNames

def ofName (name : String) : Except NameFault Charset :=
  let normal := normalName name
  if name.toList.contains '\x00' then .error .zero
  else match namings.find? fun n => isName normal n.own n.others with
    | some naming => .ok naming.charset
    | none =>
      if normal = unusableName then .error (.unusable name)
      else if conversions.any fun c => isName normal c.1 c.2 then .error (.conversion name)
      else .error (.unknown name)

/-- The most bytes of a name that the refusal of a conversion shows. -/
def shownBytes : Nat := 400

/-- The beginning of a name; a character that is cut in two becomes the replacement character. -/
def shownName (name : String) : String :=
  String.ofList (Utf8.decodeLossy ((Utf8.encode name.toList).take shownBytes))

def NameFault.message : NameFault → String
  | .unknown name => "unknown encoding: " ++ name
  | .conversion name =>
    "'" ++ shownName name ++
      "' is not a text encoding; use codecs.decode() to handle arbitrary codecs"
  | .unusable name => malformedText name "undefined encoding"
  | .zero => "embedded null character"

end SuiteTrigger.Charset
