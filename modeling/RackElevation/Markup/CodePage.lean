/-!
# Code pages

Encodings in which one byte stands for one character and the bytes below 0x80 stand for the same
characters as in ASCII.  A page is the row of characters for the bytes 0x80 to 0xFF; the replacement
character U+FFFD marks a byte that stands for nothing.

A name in a declaration is compared in lower case, with every run of characters other than letters,
digits and points read as one underscore.  Besides the pages the names of three sorts of unusable
encodings are known: those that need several bytes for some characters, those that do not decode to
text, and those that disagree with ASCII on a character of markup.
-/

namespace RackElevation.Markup

/-- A one byte encoding that extends ASCII. -/
structure CodePage where
  names : List String
  aliases : List String
  /-- The characters of the bytes from 0x80 on. -/
  upper : String
  deriving Repr

/-- The known code pages. -/
def codePages : List CodePage := [
  { names := ["ascii", "hz", "iso2022_jp", "iso2022_jp_1", "iso2022_jp_2", "iso2022_jp_2004",
      "iso2022_jp_3", "iso2022_jp_ext", "utf_8", "utf_8_sig"]
    aliases := ["646", "ansi_x3.4_1968", "ansi_x3.4_1986", "ansi_x3_4_1968", "cp367", "cp65001", "csascii",
      "csiso2022jp", "hz_gb", "hz_gb_2312", "hzgb", "ibm367", "iso2022jp", "iso2022jp_1",
      "iso2022jp_2", "iso2022jp_2004", "iso2022jp_3", "iso2022jp_ext", "iso646_us",
      "iso_2022_jp", "iso_2022_jp_1", "iso_2022_jp_2", "iso_2022_jp_2004", "iso_2022_jp_3",
      "iso_2022_jp_ext", "iso_646.irv_1991", "iso_ir_6", "u8", "us", "us_ascii", "utf", "utf8",
      "utf8_ucs2", "utf8_ucs4"]
    upper :=
      "\ufffd\ufffd\ufffd\ufffd\ufffd\ufffd\ufffd\ufffd\ufffd\ufffd\ufffd\ufffd\ufffd\ufffd\ufffd\ufffd" ++
      "\ufffd\ufffd\ufffd\ufffd\ufffd\ufffd\ufffd\ufffd\ufffd\ufffd\ufffd\ufffd\ufffd\ufffd\ufffd\ufffd" ++
      "\ufffd\ufffd\ufffd\ufffd\ufffd\ufffd\ufffd\ufffd\ufffd\ufffd\ufffd\ufffd\ufffd\ufffd\ufffd\ufffd" ++
      "\ufffd\ufffd\ufffd\ufffd\ufffd\ufffd\ufffd\ufffd\ufffd\ufffd\ufffd\ufffd\ufffd\ufffd\ufffd\ufffd" ++
      "\ufffd\ufffd\ufffd\ufffd\ufffd\ufffd\ufffd\ufffd\ufffd\ufffd\ufffd\ufffd\ufffd\ufffd\ufffd\ufffd" ++
      "\ufffd\ufffd\ufffd\ufffd\ufffd\ufffd\ufffd\ufffd\ufffd\ufffd\ufffd\ufffd\ufffd\ufffd\ufffd\ufffd" ++
      "\ufffd\ufffd\ufffd\ufffd\ufffd\ufffd\ufffd\ufffd\ufffd\ufffd\ufffd\ufffd\ufffd\ufffd\ufffd\ufffd" ++
      "\ufffd\ufffd\ufffd\ufffd\ufffd\ufffd\ufffd\ufffd\ufffd\ufffd\ufffd\ufffd\ufffd\ufffd\ufffd\ufffd" },
  { names := ["charmap", "iso8859_1", "latin_1", "raw_unicode_escape", "unicode_escape"]
    aliases := ["8859", "cp819", "csisolatin1", "ibm819", "iso8859", "iso8859_1", "iso_8859_1",
      "iso_8859_1_1987", "iso_ir_100", "l1", "latin", "latin1"]
    upper :=
      "\u0080\u0081\u0082\u0083\u0084\u0085\u0086\u0087\u0088\u0089\u008a\u008b\u008c\u008d\u008e\u008f" ++
      "\u0090\u0091\u0092\u0093\u0094\u0095\u0096\u0097\u0098\u0099\u009a\u009b\u009c\u009d\u009e\u009f" ++
      "\u00a0\u00a1\u00a2\u00a3\u00a4\u00a5\u00a6\u00a7\u00a8\u00a9ª\u00ab\u00ac\u00ad\u00ae\u00af" ++
      "\u00b0\u00b1\u00b2\u00b3\u00b4µ\u00b6\u00b7\u00b8\u00b9º\u00bb\u00bc\u00bd\u00be\u00bf" ++
      "ÀÁÂÃÄÅÆÇÈÉÊËÌÍÎÏ" ++
      "ÐÑÒÓÔÕÖ\u00d7ØÙÚÛÜÝÞß" ++
      "àáâãäåæçèéêëìíîï" ++
      "ðñòóôõö\u00f7øùúûüýþÿ" },
  { names := ["cp1006"]
    aliases := []
    upper :=
      "\u0080\u0081\u0082\u0083\u0084\u0085\u0086\u0087\u0088\u0089\u008a\u008b\u008c\u008d\u008e\u008f" ++
      "\u0090\u0091\u0092\u0093\u0094\u0095\u0096\u0097\u0098\u0099\u009a\u009b\u009c\u009d\u009e\u009f" ++
      "\u00a0\u06f0\u06f1\u06f2\u06f3\u06f4\u06f5\u06f6\u06f7\u06f8\u06f9\u060c\u061b\u00ad\u061f\ufe81" ++
      "\ufe8d\ufe8e\ufe8e\ufe8f\ufe91\ufb56\ufb58\ufe93\ufe95\ufe97\ufb66\ufb68\ufe99\ufe9b\ufe9d\ufe9f" ++
      "\ufb7a\ufb7c\ufea1\ufea3\ufea5\ufea7\ufea9\ufb84\ufeab\ufead\ufb8c\ufeaf\ufb8a\ufeb1\ufeb3\ufeb5" ++
      "\ufeb7\ufeb9\ufebb\ufebd\ufebf\ufec1\ufec5\ufec9\ufeca\ufecb\ufecc\ufecd\ufece\ufecf\ufed0\ufed1" ++
      "\ufed3\ufed5\ufed7\ufed9\ufedb\ufb92\ufb94\ufedd\ufedf\ufee0\ufee1\ufee3\ufb9e\ufee5\ufee7\ufe85" ++
      "\ufeed\ufba6\ufba8\ufba9\ufbaa\ufe80\ufe89\ufe8a\ufe8b\ufef1\ufef2\ufef3\ufbb0\ufbae\ufe7c\ufe7d" },
  { names := ["cp1125"]
    aliases := ["1125", "cp866u", "ibm1125", "ruscii"]
    upper :=
      "АБВГДЕЖЗИЙКЛМНОП" ++
      "РСТУФХЦЧШЩЪЫЬЭЮЯ" ++
      "абвгдежзийклмноп" ++
      "\u2591\u2592\u2593\u2502\u2524\u2561\u2562\u2556\u2555\u2563\u2551\u2557\u255d\u255c\u255b\u2510" ++
      "\u2514\u2534\u252c\u251c\u2500\u253c\u255e\u255f\u255a\u2554\u2569\u2566\u2560\u2550\u256c\u2567" ++
      "\u2568\u2564\u2565\u2559\u2558\u2552\u2553\u256b\u256a\u2518\u250c\u2588\u2584\u258c\u2590\u2580" ++
      "рстуфхцчшщъыьэюя" ++
      "ЁёҐґЄєІіЇї\u00b7\u221a\u2116\u00a4\u25a0\u00a0" },
  { names := ["cp1250"]
    aliases := ["1250", "windows_1250"]
    upper :=
      "\u20ac\ufffd\u201a\ufffd\u201e\u2026\u2020\u2021\ufffd\u2030Š\u2039ŚŤŽŹ" ++
      "\ufffd\u2018\u2019\u201c\u201d\u2022\u2013\u2014\ufffd\u2122š\u203aśťžź" ++
      "\u00a0\u02c7\u02d8Ł\u00a4Ą\u00a6\u00a7\u00a8\u00a9Ş\u00ab\u00ac\u00ad\u00aeŻ" ++
      "\u00b0\u00b1\u02dbł\u00b4µ\u00b6\u00b7\u00b8ąş\u00bbĽ\u02ddľż" ++
      "ŔÁÂĂÄĹĆÇČÉĘËĚÍÎĎ" ++
      "ĐŃŇÓÔŐÖ\u00d7ŘŮÚŰÜÝŢß" ++
      "ŕáâăäĺćçčéęëěíîď" ++
      "đńňóôőö\u00f7řůúűüýţ\u02d9" },
  { names := ["cp1251"]
    aliases := ["1251", "windows_1251"]
    upper :=
      "ЂЃ\u201aѓ\u201e\u2026\u2020\u2021\u20ac\u2030Љ\u2039ЊЌЋЏ" ++
      "ђ\u2018\u2019\u201c\u201d\u2022\u2013\u2014\ufffd\u2122љ\u203aњќћџ" ++
      "\u00a0ЎўЈ\u00a4Ґ\u00a6\u00a7Ё\u00a9Є\u00ab\u00ac\u00ad\u00aeЇ" ++
      "\u00b0\u00b1Ііґµ\u00b6\u00b7ё\u2116є\u00bbјЅѕї" ++
      "АБВГДЕЖЗИЙКЛМНОП" ++
      "РСТУФХЦЧШЩЪЫЬЭЮЯ" ++
      "абвгдежзийклмноп" ++
      "рстуфхцчшщъыьэюя" },
  { names := ["cp1252"]
    aliases := ["1252", "windows_1252"]
    upper :=
      "\u20ac\ufffd\u201aƒ\u201e\u2026\u2020\u2021\u02c6\u2030Š\u2039Œ\ufffdŽ\ufffd" ++
      "\ufffd\u2018\u2019\u201c\u201d\u2022\u2013\u2014\u02dc\u2122š\u203aœ\ufffdžŸ" ++
      "\u00a0\u00a1\u00a2\u00a3\u00a4\u00a5\u00a6\u00a7\u00a8\u00a9ª\u00ab\u00ac\u00ad\u00ae\u00af" ++
      "\u00b0\u00b1\u00b2\u00b3\u00b4µ\u00b6\u00b7\u00b8\u00b9º\u00bb\u00bc\u00bd\u00be\u00bf" ++
      "ÀÁÂÃÄÅÆÇÈÉÊËÌÍÎÏ" ++
      "ÐÑÒÓÔÕÖ\u00d7ØÙÚÛÜÝÞß" ++
      "àáâãäåæçèéêëìíîï" ++
      "ðñòóôõö\u00f7øùúûüýþÿ" },
  { names := ["cp1253"]
    aliases := ["1253", "windows_1253"]
    upper :=
      "\u20ac\ufffd\u201aƒ\u201e\u2026\u2020\u2021\ufffd\u2030\ufffd\u2039\ufffd\ufffd\ufffd\ufffd" ++
      "\ufffd\u2018\u2019\u201c\u201d\u2022\u2013\u2014\ufffd\u2122\ufffd\u203a\ufffd\ufffd\ufffd\ufffd" ++
      "\u00a0\u0385Ά\u00a3\u00a4\u00a5\u00a6\u00a7\u00a8\u00a9\ufffd\u00ab\u00ac\u00ad\u00ae\u2015" ++
      "\u00b0\u00b1\u00b2\u00b3\u0384µ\u00b6\u00b7ΈΉΊ\u00bbΌ\u00bdΎΏ" ++
      "ΐΑΒΓΔΕΖΗΘΙΚΛΜΝΞΟ" ++
      "ΠΡ\ufffdΣΤΥΦΧΨΩΪΫάέήί" ++
      "ΰαβγδεζηθικλμνξο" ++
      "πρςστυφχψωϊϋόύώ\ufffd" },
  { names := ["cp1254"]
    aliases := ["1254", "windows_1254"]
    upper :=
      "\u20ac\ufffd\u201aƒ\u201e\u2026\u2020\u2021\u02c6\u2030Š\u2039Œ\ufffd\ufffd\ufffd" ++
      "\ufffd\u2018\u2019\u201c\u201d\u2022\u2013\u2014\u02dc\u2122š\u203aœ\ufffd\ufffdŸ" ++
      "\u00a0\u00a1\u00a2\u00a3\u00a4\u00a5\u00a6\u00a7\u00a8\u00a9ª\u00ab\u00ac\u00ad\u00ae\u00af" ++
      "\u00b0\u00b1\u00b2\u00b3\u00b4µ\u00b6\u00b7\u00b8\u00b9º\u00bb\u00bc\u00bd\u00be\u00bf" ++
      "ÀÁÂÃÄÅÆÇÈÉÊËÌÍÎÏ" ++
      "ĞÑÒÓÔÕÖ\u00d7ØÙÚÛÜİŞß" ++
      "àáâãäåæçèéêëìíîï" ++
      "ğñòóôõö\u00f7øùúûüışÿ" },
  { names := ["cp1255"]
    aliases := ["1255", "windows_1255"]
    upper :=
      "\u20ac\ufffd\u201aƒ\u201e\u2026\u2020\u2021\u02c6\u2030\ufffd\u2039\ufffd\ufffd\ufffd\ufffd" ++
      "\ufffd\u2018\u2019\u201c\u201d\u2022\u2013\u2014\u02dc\u2122\ufffd\u203a\ufffd\ufffd\ufffd\ufffd" ++
      "\u00a0\u00a1\u00a2\u00a3\u20aa\u00a5\u00a6\u00a7\u00a8\u00a9\u00d7\u00ab\u00ac\u00ad\u00ae\u00af" ++
      "\u00b0\u00b1\u00b2\u00b3\u00b4µ\u00b6\u00b7\u00b8\u00b9\u00f7\u00bb\u00bc\u00bd\u00be\u00bf" ++
      "\u05b0\u05b1\u05b2\u05b3\u05b4\u05b5\u05b6\u05b7\u05b8\u05b9\ufffd\u05bb\u05bc\u05bd\u05be\u05bf" ++
      "\u05c0\u05c1\u05c2\u05c3\u05f0\u05f1\u05f2\u05f3\u05f4\ufffd\ufffd\ufffd\ufffd\ufffd\ufffd\ufffd" ++
      "\u05d0\u05d1\u05d2\u05d3\u05d4\u05d5\u05d6\u05d7\u05d8\u05d9\u05da\u05db\u05dc\u05dd\u05de\u05df" ++
      "\u05e0\u05e1\u05e2\u05e3\u05e4\u05e5\u05e6\u05e7\u05e8\u05e9\u05ea\ufffd\ufffd\u200e\u200f\ufffd" },
  { names := ["cp1256"]
    aliases := ["1256", "windows_1256"]
    upper :=
      "\u20ac\u067e\u201aƒ\u201e\u2026\u2020\u2021\u02c6\u2030\u0679\u2039Œ\u0686\u0698\u0688" ++
      "\u06af\u2018\u2019\u201c\u201d\u2022\u2013\u2014\u06a9\u2122\u0691\u203aœ\u200c\u200d\u06ba" ++
      "\u00a0\u060c\u00a2\u00a3\u00a4\u00a5\u00a6\u00a7\u00a8\u00a9\u06be\u00ab\u00ac\u00ad\u00ae\u00af" ++
      "\u00b0\u00b1\u00b2\u00b3\u00b4µ\u00b6\u00b7\u00b8\u00b9\u061b\u00bb\u00bc\u00bd\u00be\u061f" ++
      "\u06c1\u0621\u0622\u0623\u0624\u0625\u0626\u0627\u0628\u0629\u062a\u062b\u062c\u062d\u062e\u062f" ++
      "\u0630\u0631\u0632\u0633\u0634\u0635\u0636\u00d7\u0637\u0638\u0639\u063a\u0640\u0641\u0642\u0643" ++
      "à\u0644â\u0645\u0646\u0647\u0648çèéêë\u0649\u064aîï" ++
      "\u064b\u064c\u064d\u064eô\u064f\u0650\u00f7\u0651ù\u0652ûü\u200e\u200f\u06d2" },
  { names := ["cp1257"]
    aliases := ["1257", "windows_1257"]
    upper :=
      "\u20ac\ufffd\u201a\ufffd\u201e\u2026\u2020\u2021\ufffd\u2030\ufffd\u2039\ufffd\u00a8\u02c7\u00b8" ++
      "\ufffd\u2018\u2019\u201c\u201d\u2022\u2013\u2014\ufffd\u2122\ufffd\u203a\ufffd\u00af\u02db\ufffd" ++
      "\u00a0\ufffd\u00a2\u00a3\u00a4\ufffd\u00a6\u00a7Ø\u00a9Ŗ\u00ab\u00ac\u00ad\u00aeÆ" ++
      "\u00b0\u00b1\u00b2\u00b3\u00b4µ\u00b6\u00b7ø\u00b9ŗ\u00bb\u00bc\u00bd\u00beæ" ++
      "ĄĮĀĆÄÅĘĒČÉŹĖĢĶĪĻ" ++
      "ŠŃŅÓŌÕÖ\u00d7ŲŁŚŪÜŻŽß" ++
      "ąįāćäåęēčéźėģķīļ" ++
      "šńņóōõö\u00f7ųłśūüżž\u02d9" },
  { names := ["cp1258"]
    aliases := ["1258", "windows_1258"]
    upper :=
      "\u20ac\ufffd\u201aƒ\u201e\u2026\u2020\u2021\u02c6\u2030\ufffd\u2039Œ\ufffd\ufffd\ufffd" ++
      "\ufffd\u2018\u2019\u201c\u201d\u2022\u2013\u2014\u02dc\u2122\ufffd\u203aœ\ufffd\ufffdŸ" ++
      "\u00a0\u00a1\u00a2\u00a3\u00a4\u00a5\u00a6\u00a7\u00a8\u00a9ª\u00ab\u00ac\u00ad\u00ae\u00af" ++
      "\u00b0\u00b1\u00b2\u00b3\u00b4µ\u00b6\u00b7\u00b8\u00b9º\u00bb\u00bc\u00bd\u00be\u00bf" ++
      "ÀÁÂĂÄÅÆÇÈÉÊË\u0300ÍÎÏ" ++
      "ĐÑ\u0309ÓÔƠÖ\u00d7ØÙÚÛÜƯ\u0303ß" ++
      "àáâăäåæçèéêë\u0301íîï" ++
      "đñ\u0323óôơö\u00f7øùúûüư\u20abÿ" },
  { names := ["cp437"]
    aliases := ["437", "cspc8codepage437", "ibm437"]
    upper :=
      "ÇüéâäàåçêëèïîìÄÅ" ++
      "ÉæÆôöòûùÿÖÜ\u00a2\u00a3\u00a5\u20a7ƒ" ++
      "áíóúñÑªº\u00bf\u2310\u00ac\u00bd\u00bc\u00a1\u00ab\u00bb" ++
      "\u2591\u2592\u2593\u2502\u2524\u2561\u2562\u2556\u2555\u2563\u2551\u2557\u255d\u255c\u255b\u2510" ++
      "\u2514\u2534\u252c\u251c\u2500\u253c\u255e\u255f\u255a\u2554\u2569\u2566\u2560\u2550\u256c\u2567" ++
      "\u2568\u2564\u2565\u2559\u2558\u2552\u2553\u256b\u256a\u2518\u250c\u2588\u2584\u258c\u2590\u2580" ++
      "αßΓπΣσµτΦΘΩδ\u221eφε\u2229" ++
      "\u2261\u00b1\u2265\u2264\u2320\u2321\u00f7\u2248\u00b0\u2219\u00b7\u221aⁿ\u00b2\u25a0\u00a0" },
  { names := ["cp720"]
    aliases := []
    upper :=
      "\u0080\u0081éâ\u0084à\u0086çêëèïî\u008d\u008e\u008f" ++
      "\u0090\u0651\u0652ô\u00a4\u0640ûù\u0621\u0622\u0623\u0624\u00a3\u0625\u0626\u0627" ++
      "\u0628\u0629\u062a\u062b\u062c\u062d\u062e\u062f\u0630\u0631\u0632\u0633\u0634\u0635\u00ab\u00bb" ++
      "\u2591\u2592\u2593\u2502\u2524\u2561\u2562\u2556\u2555\u2563\u2551\u2557\u255d\u255c\u255b\u2510" ++
      "\u2514\u2534\u252c\u251c\u2500\u253c\u255e\u255f\u255a\u2554\u2569\u2566\u2560\u2550\u256c\u2567" ++
      "\u2568\u2564\u2565\u2559\u2558\u2552\u2553\u256b\u256a\u2518\u250c\u2588\u2584\u258c\u2590\u2580" ++
      "\u0636\u0637\u0638\u0639\u063a\u0641µ\u0642\u0643\u0644\u0645\u0646\u0647\u0648\u0649\u064a" ++
      "\u2261\u064b\u064c\u064d\u064e\u064f\u0650\u2248\u00b0\u2219\u00b7\u221aⁿ\u00b2\u25a0\u00a0" },
  { names := ["cp737"]
    aliases := []
    upper :=
      "ΑΒΓΔΕΖΗΘΙΚΛΜΝΞΟΠ" ++
      "ΡΣΤΥΦΧΨΩαβγδεζηθ" ++
      "ικλμνξοπρσςτυφχψ" ++
      "\u2591\u2592\u2593\u2502\u2524\u2561\u2562\u2556\u2555\u2563\u2551\u2557\u255d\u255c\u255b\u2510" ++
      "\u2514\u2534\u252c\u251c\u2500\u253c\u255e\u255f\u255a\u2554\u2569\u2566\u2560\u2550\u256c\u2567" ++
      "\u2568\u2564\u2565\u2559\u2558\u2552\u2553\u256b\u256a\u2518\u250c\u2588\u2584\u258c\u2590\u2580" ++
      "ωάέήϊίόύϋώΆΈΉΊΌΎ" ++
      "Ώ\u00b1\u2265\u2264ΪΫ\u00f7\u2248\u00b0\u2219\u00b7\u221aⁿ\u00b2\u25a0\u00a0" },
  { names := ["cp775"]
    aliases := ["775", "cspc775baltic", "ibm775"]
    upper :=
      "ĆüéāäģåćłēŖŗīŹÄÅ" ++
      "ÉæÆōöĢ\u00a2ŚśÖÜø\u00a3Ø\u00d7\u00a4" ++
      "ĀĪóŻżź\u201d\u00a6\u00a9\u00ae\u00ac\u00bd\u00bcŁ\u00ab\u00bb" ++
      "\u2591\u2592\u2593\u2502\u2524ĄČĘĖ\u2563\u2551\u2557\u255dĮŠ\u2510" ++
      "\u2514\u2534\u252c\u251c\u2500\u253cŲŪ\u255a\u2554\u2569\u2566\u2560\u2550\u256cŽ" ++
      "ąčęėįšųūž\u2518\u250c\u2588\u2584\u258c\u2590\u2580" ++
      "ÓßŌŃõÕµńĶķĻļņĒŅ\u2019" ++
      "\u00ad\u00b1\u201c\u00be\u00b6\u00a7\u00f7\u201e\u00b0\u2219\u00b7\u00b9\u00b3\u00b2\u25a0\u00a0" },
  { names := ["cp850"]
    aliases := ["850", "cspc850multilingual", "ibm850"]
    upper :=
      "ÇüéâäàåçêëèïîìÄÅ" ++
      "ÉæÆôöòûùÿÖÜø\u00a3Ø\u00d7ƒ" ++
      "áíóúñÑªº\u00bf\u00ae\u00ac\u00bd\u00bc\u00a1\u00ab\u00bb" ++
      "\u2591\u2592\u2593\u2502\u2524ÁÂÀ\u00a9\u2563\u2551\u2557\u255d\u00a2\u00a5\u2510" ++
      "\u2514\u2534\u252c\u251c\u2500\u253cãÃ\u255a\u2554\u2569\u2566\u2560\u2550\u256c\u00a4" ++
      "ðÐÊËÈıÍÎÏ\u2518\u250c\u2588\u2584\u00a6Ì\u2580" ++
      "ÓßÔÒõÕµþÞÚÛÙýÝ\u00af\u00b4" ++
      "\u00ad\u00b1\u2017\u00be\u00b6\u00a7\u00f7\u00b8\u00b0\u00a8\u00b7\u00b9\u00b3\u00b2\u25a0\u00a0" },
  { names := ["cp852"]
    aliases := ["852", "cspcp852", "ibm852"]
    upper :=
      "ÇüéâäůćçłëŐőîŹÄĆ" ++
      "ÉĹĺôöĽľŚśÖÜŤťŁ\u00d7č" ++
      "áíóúĄąŽžĘę\u00acźČş\u00ab\u00bb" ++
      "\u2591\u2592\u2593\u2502\u2524ÁÂĚŞ\u2563\u2551\u2557\u255dŻż\u2510" ++
      "\u2514\u2534\u252c\u251c\u2500\u253cĂă\u255a\u2554\u2569\u2566\u2560\u2550\u256c\u00a4" ++
      "đĐĎËďŇÍÎě\u2518\u250c\u2588\u2584ŢŮ\u2580" ++
      "ÓßÔŃńňŠšŔÚŕŰýÝţ\u00b4" ++
      "\u00ad\u02dd\u02db\u02c7\u02d8\u00a7\u00f7\u00b8\u00b0\u00a8\u02d9űŘř\u25a0\u00a0" },
  { names := ["cp855"]
    aliases := ["855", "csibm855", "ibm855"]
    upper :=
      "ђЂѓЃёЁєЄѕЅіІїЇјЈ" ++
      "љЉњЊћЋќЌўЎџЏюЮъЪ" ++
      "аАбБцЦдДеЕфФгГ\u00ab\u00bb" ++
      "\u2591\u2592\u2593\u2502\u2524хХиИ\u2563\u2551\u2557\u255dйЙ\u2510" ++
      "\u2514\u2534\u252c\u251c\u2500\u253cкК\u255a\u2554\u2569\u2566\u2560\u2550\u256c\u00a4" ++
      "лЛмМнНоОп\u2518\u250c\u2588\u2584Пя\u2580" ++
      "ЯрРсСтТуУжЖвВьЬ\u2116" ++
      "\u00adыЫзЗшШэЭщЩчЧ\u00a7\u25a0\u00a0" },
  { names := ["cp856"]
    aliases := []
    upper :=
      "\u05d0\u05d1\u05d2\u05d3\u05d4\u05d5\u05d6\u05d7\u05d8\u05d9\u05da\u05db\u05dc\u05dd\u05de\u05df" ++
      "\u05e0\u05e1\u05e2\u05e3\u05e4\u05e5\u05e6\u05e7\u05e8\u05e9\u05ea\ufffd\u00a3\ufffd\u00d7\ufffd" ++
      "\ufffd\ufffd\ufffd\ufffd\ufffd\ufffd\ufffd\ufffd\ufffd\u00ae\u00ac\u00bd\u00bc\ufffd\u00ab\u00bb" ++
      "\u2591\u2592\u2593\u2502\u2524\ufffd\ufffd\ufffd\u00a9\u2563\u2551\u2557\u255d\u00a2\u00a5\u2510" ++
      "\u2514\u2534\u252c\u251c\u2500\u253c\ufffd\ufffd\u255a\u2554\u2569\u2566\u2560\u2550\u256c\u00a4" ++
      "\ufffd\ufffd\ufffd\ufffd\ufffd\ufffd\ufffd\ufffd\ufffd\u2518\u250c\u2588\u2584\u00a6\ufffd\u2580" ++
      "\ufffd\ufffd\ufffd\ufffd\ufffd\ufffdµ\ufffd\ufffd\ufffd\ufffd\ufffd\ufffd\ufffd\u00af\u00b4" ++
      "\u00ad\u00b1\u2017\u00be\u00b6\u00a7\u00f7\u00b8\u00b0\u00a8\u00b7\u00b9\u00b3\u00b2\u25a0\u00a0" },
  { names := ["cp857"]
    aliases := ["857", "csibm857", "ibm857"]
    upper :=
      "ÇüéâäàåçêëèïîıÄÅ" ++
      "ÉæÆôöòûùİÖÜø\u00a3ØŞş" ++
      "áíóúñÑĞğ\u00bf\u00ae\u00ac\u00bd\u00bc\u00a1\u00ab\u00bb" ++
      "\u2591\u2592\u2593\u2502\u2524ÁÂÀ\u00a9\u2563\u2551\u2557\u255d\u00a2\u00a5\u2510" ++
      "\u2514\u2534\u252c\u251c\u2500\u253cãÃ\u255a\u2554\u2569\u2566\u2560\u2550\u256c\u00a4" ++
      "ºªÊËÈ\ufffdÍÎÏ\u2518\u250c\u2588\u2584\u00a6Ì\u2580" ++
      "ÓßÔÒõÕµ\ufffd\u00d7ÚÛÙìÿ\u00af\u00b4" ++
      "\u00ad\u00b1\ufffd\u00be\u00b6\u00a7\u00f7\u00b8\u00b0\u00a8\u00b7\u00b9\u00b3\u00b2\u25a0\u00a0" },
  { names := ["cp858"]
    aliases := ["858", "csibm858", "ibm858"]
    upper :=
      "ÇüéâäàåçêëèïîìÄÅ" ++
      "ÉæÆôöòûùÿÖÜø\u00a3Ø\u00d7ƒ" ++
      "áíóúñÑªº\u00bf\u00ae\u00ac\u00bd\u00bc\u00a1\u00ab\u00bb" ++
      "\u2591\u2592\u2593\u2502\u2524ÁÂÀ\u00a9\u2563\u2551\u2557\u255d\u00a2\u00a5\u2510" ++
      "\u2514\u2534\u252c\u251c\u2500\u253cãÃ\u255a\u2554\u2569\u2566\u2560\u2550\u256c\u00a4" ++
      "ðÐÊËÈ\u20acÍÎÏ\u2518\u250c\u2588\u2584\u00a6Ì\u2580" ++
      "ÓßÔÒõÕµþÞÚÛÙýÝ\u00af\u00b4" ++
      "\u00ad\u00b1\u2017\u00be\u00b6\u00a7\u00f7\u00b8\u00b0\u00a8\u00b7\u00b9\u00b3\u00b2\u25a0\u00a0" },
  { names := ["cp860"]
    aliases := ["860", "csibm860", "ibm860"]
    upper :=
      "ÇüéâãàÁçêÊèÍÔìÃÂ" ++
      "ÉÀÈôõòÚùÌÕÜ\u00a2\u00a3Ù\u20a7Ó" ++
      "áíóúñÑªº\u00bfÒ\u00ac\u00bd\u00bc\u00a1\u00ab\u00bb" ++
      "\u2591\u2592\u2593\u2502\u2524\u2561\u2562\u2556\u2555\u2563\u2551\u2557\u255d\u255c\u255b\u2510" ++
      "\u2514\u2534\u252c\u251c\u2500\u253c\u255e\u255f\u255a\u2554\u2569\u2566\u2560\u2550\u256c\u2567" ++
      "\u2568\u2564\u2565\u2559\u2558\u2552\u2553\u256b\u256a\u2518\u250c\u2588\u2584\u258c\u2590\u2580" ++
      "αßΓπΣσµτΦΘΩδ\u221eφε\u2229" ++
      "\u2261\u00b1\u2265\u2264\u2320\u2321\u00f7\u2248\u00b0\u2219\u00b7\u221aⁿ\u00b2\u25a0\u00a0" },
  { names := ["cp861"]
    aliases := ["861", "cp_is", "csibm861", "ibm861"]
    upper :=
      "ÇüéâäàåçêëèÐðÞÄÅ" ++
      "ÉæÆôöþûÝýÖÜø\u00a3Ø\u20a7ƒ" ++
      "áíóúÁÍÓÚ\u00bf\u2310\u00ac\u00bd\u00bc\u00a1\u00ab\u00bb" ++
      "\u2591\u2592\u2593\u2502\u2524\u2561\u2562\u2556\u2555\u2563\u2551\u2557\u255d\u255c\u255b\u2510" ++
      "\u2514\u2534\u252c\u251c\u2500\u253c\u255e\u255f\u255a\u2554\u2569\u2566\u2560\u2550\u256c\u2567" ++
      "\u2568\u2564\u2565\u2559\u2558\u2552\u2553\u256b\u256a\u2518\u250c\u2588\u2584\u258c\u2590\u2580" ++
      "αßΓπΣσµτΦΘΩδ\u221eφε\u2229" ++
      "\u2261\u00b1\u2265\u2264\u2320\u2321\u00f7\u2248\u00b0\u2219\u00b7\u221aⁿ\u00b2\u25a0\u00a0" },
  { names := ["cp862"]
    aliases := ["862", "cspc862latinhebrew", "ibm862"]
    upper :=
      "\u05d0\u05d1\u05d2\u05d3\u05d4\u05d5\u05d6\u05d7\u05d8\u05d9\u05da\u05db\u05dc\u05dd\u05de\u05df" ++
      "\u05e0\u05e1\u05e2\u05e3\u05e4\u05e5\u05e6\u05e7\u05e8\u05e9\u05ea\u00a2\u00a3\u00a5\u20a7ƒ" ++
      "áíóúñÑªº\u00bf\u2310\u00ac\u00bd\u00bc\u00a1\u00ab\u00bb" ++
      "\u2591\u2592\u2593\u2502\u2524\u2561\u2562\u2556\u2555\u2563\u2551\u2557\u255d\u255c\u255b\u2510" ++
      "\u2514\u2534\u252c\u251c\u2500\u253c\u255e\u255f\u255a\u2554\u2569\u2566\u2560\u2550\u256c\u2567" ++
      "\u2568\u2564\u2565\u2559\u2558\u2552\u2553\u256b\u256a\u2518\u250c\u2588\u2584\u258c\u2590\u2580" ++
      "αßΓπΣσµτΦΘΩδ\u221eφε\u2229" ++
      "\u2261\u00b1\u2265\u2264\u2320\u2321\u00f7\u2248\u00b0\u2219\u00b7\u221aⁿ\u00b2\u25a0\u00a0" },
  { names := ["cp863"]
    aliases := ["863", "csibm863", "ibm863"]
    upper :=
      "ÇüéâÂà\u00b6çêëèïî\u2017À\u00a7" ++
      "ÉÈÊôËÏûù\u00a4ÔÜ\u00a2\u00a3ÙÛƒ" ++
      "\u00a6\u00b4óú\u00a8\u00b8\u00b3\u00afÎ\u2310\u00ac\u00bd\u00bc\u00be\u00ab\u00bb" ++
      "\u2591\u2592\u2593\u2502\u2524\u2561\u2562\u2556\u2555\u2563\u2551\u2557\u255d\u255c\u255b\u2510" ++
      "\u2514\u2534\u252c\u251c\u2500\u253c\u255e\u255f\u255a\u2554\u2569\u2566\u2560\u2550\u256c\u2567" ++
      "\u2568\u2564\u2565\u2559\u2558\u2552\u2553\u256b\u256a\u2518\u250c\u2588\u2584\u258c\u2590\u2580" ++
      "αßΓπΣσµτΦΘΩδ\u221eφε\u2229" ++
      "\u2261\u00b1\u2265\u2264\u2320\u2321\u00f7\u2248\u00b0\u2219\u00b7\u221aⁿ\u00b2\u25a0\u00a0" },
  { names := ["cp865"]
    aliases := ["865", "csibm865", "ibm865"]
    upper :=
      "ÇüéâäàåçêëèïîìÄÅ" ++
      "ÉæÆôöòûùÿÖÜø\u00a3Ø\u20a7ƒ" ++
      "áíóúñÑªº\u00bf\u2310\u00ac\u00bd\u00bc\u00a1\u00ab\u00a4" ++
      "\u2591\u2592\u2593\u2502\u2524\u2561\u2562\u2556\u2555\u2563\u2551\u2557\u255d\u255c\u255b\u2510" ++
      "\u2514\u2534\u252c\u251c\u2500\u253c\u255e\u255f\u255a\u2554\u2569\u2566\u2560\u2550\u256c\u2567" ++
      "\u2568\u2564\u2565\u2559\u2558\u2552\u2553\u256b\u256a\u2518\u250c\u2588\u2584\u258c\u2590\u2580" ++
      "αßΓπΣσµτΦΘΩδ\u221eφε\u2229" ++
      "\u2261\u00b1\u2265\u2264\u2320\u2321\u00f7\u2248\u00b0\u2219\u00b7\u221aⁿ\u00b2\u25a0\u00a0" },
  { names := ["cp866"]
    aliases := ["866", "csibm866", "ibm866"]
    upper :=
      "АБВГДЕЖЗИЙКЛМНОП" ++
      "РСТУФХЦЧШЩЪЫЬЭЮЯ" ++
      "абвгдежзийклмноп" ++
      "\u2591\u2592\u2593\u2502\u2524\u2561\u2562\u2556\u2555\u2563\u2551\u2557\u255d\u255c\u255b\u2510" ++
      "\u2514\u2534\u252c\u251c\u2500\u253c\u255e\u255f\u255a\u2554\u2569\u2566\u2560\u2550\u256c\u2567" ++
      "\u2568\u2564\u2565\u2559\u2558\u2552\u2553\u256b\u256a\u2518\u250c\u2588\u2584\u258c\u2590\u2580" ++
      "рстуфхцчшщъыьэюя" ++
      "ЁёЄєЇїЎў\u00b0\u2219\u00b7\u221a\u2116\u00a4\u25a0\u00a0" },
  { names := ["cp869"]
    aliases := ["869", "cp_gr", "csibm869", "ibm869"]
    upper :=
      "\ufffd\ufffd\ufffd\ufffd\ufffd\ufffdΆ\ufffd\u00b7\u00ac\u00a6\u2018\u2019Έ\u2015Ή" ++
      "ΊΪΌ\ufffd\ufffdΎΫ\u00a9Ώ\u00b2\u00b3ά\u00a3έήί" ++
      "ϊΐόύΑΒΓΔΕΖΗ\u00bdΘΙ\u00ab\u00bb" ++
      "\u2591\u2592\u2593\u2502\u2524ΚΛΜΝ\u2563\u2551\u2557\u255dΞΟ\u2510" ++
      "\u2514\u2534\u252c\u251c\u2500\u253cΠΡ\u255a\u2554\u2569\u2566\u2560\u2550\u256cΣ" ++
      "ΤΥΦΧΨΩαβγ\u2518\u250c\u2588\u2584δε\u2580" ++
      "ζηθικλμνξοπρσςτ\u0384" ++
      "\u00ad\u00b1υφχ\u00a7ψ\u0385\u00b0\u00a8ωϋΰώ\u25a0\u00a0" },
  { names := ["cp874"]
    aliases := []
    upper :=
      "\u20ac\ufffd\ufffd\ufffd\ufffd\u2026\ufffd\ufffd\ufffd\ufffd\ufffd\ufffd\ufffd\ufffd\ufffd\ufffd" ++
      "\ufffd\u2018\u2019\u201c\u201d\u2022\u2013\u2014\ufffd\ufffd\ufffd\ufffd\ufffd\ufffd\ufffd\ufffd" ++
      "\u00a0กขฃคฅฆงจฉชซฌญฎฏ" ++
      "ฐฑฒณดตถทธนบปผฝพฟ" ++
      "ภมยรฤลฦวศษสหฬอฮฯ" ++
      "ะ\u0e31าำ\u0e34\u0e35\u0e36\u0e37\u0e38\u0e39\u0e3a\ufffd\ufffd\ufffd\ufffd\u0e3f" ++
      "เแโใไๅๆ\u0e47\u0e48\u0e49\u0e4a\u0e4b\u0e4c\u0e4d\u0e4e\u0e4f" ++
      "\u0e50\u0e51\u0e52\u0e53\u0e54\u0e55\u0e56\u0e57\u0e58\u0e59\u0e5a\u0e5b\ufffd\ufffd\ufffd\ufffd" },
  { names := ["hp_roman8"]
    aliases := ["cp1051", "csHPRoman8", "ibm1051", "r8", "roman8"]
    upper :=
      "\u0080\u0081\u0082\u0083\u0084\u0085\u0086\u0087\u0088\u0089\u008a\u008b\u008c\u008d\u008e\u008f" ++
      "\u0090\u0091\u0092\u0093\u0094\u0095\u0096\u0097\u0098\u0099\u009a\u009b\u009c\u009d\u009e\u009f" ++
      "\u00a0ÀÂÈÊËÎÏ\u00b4\u02cb\u02c6\u00a8\u02dcÙÛ\u20a4" ++
      "\u00afÝý\u00b0ÇçÑñ\u00a1\u00bf\u00a4\u00a3\u00a5\u00a7ƒ\u00a2" ++
      "âêôûáéóúàèòùäëöü" ++
      "ÅîØÆåíøæÄìÖÜÉïßÔ" ++
      "ÁÃãÐðÍÌÓÒÕõŠšÚŸÿ" ++
      "Þþ\u00b7µ\u00b6\u00be\u2014\u00bc\u00bdªº\u00ab\u25a0\u00bb\u00b1\ufffd" },
  { names := ["iso8859_10"]
    aliases := ["csisolatin6", "iso_8859_10", "iso_8859_10_1992", "iso_ir_157", "l6", "latin6"]
    upper :=
      "\u0080\u0081\u0082\u0083\u0084\u0085\u0086\u0087\u0088\u0089\u008a\u008b\u008c\u008d\u008e\u008f" ++
      "\u0090\u0091\u0092\u0093\u0094\u0095\u0096\u0097\u0098\u0099\u009a\u009b\u009c\u009d\u009e\u009f" ++
      "\u00a0ĄĒĢĪĨĶ\u00a7ĻĐŠŦŽ\u00adŪŊ" ++
      "\u00b0ąēģīĩķ\u00b7ļđšŧž\u2015ūŋ" ++
      "ĀÁÂÃÄÅÆĮČÉĘËĖÍÎÏ" ++
      "ÐŅŌÓÔÕÖŨØŲÚÛÜÝÞß" ++
      "āáâãäåæįčéęëėíîï" ++
      "ðņōóôõöũøųúûüýþĸ" },
  { names := ["iso8859_11"]
    aliases := ["iso_8859_11", "iso_8859_11_2001", "thai"]
    upper :=
      "\u0080\u0081\u0082\u0083\u0084\u0085\u0086\u0087\u0088\u0089\u008a\u008b\u008c\u008d\u008e\u008f" ++
      "\u0090\u0091\u0092\u0093\u0094\u0095\u0096\u0097\u0098\u0099\u009a\u009b\u009c\u009d\u009e\u009f" ++
      "\u00a0กขฃคฅฆงจฉชซฌญฎฏ" ++
      "ฐฑฒณดตถทธนบปผฝพฟ" ++
      "ภมยรฤลฦวศษสหฬอฮฯ" ++
      "ะ\u0e31าำ\u0e34\u0e35\u0e36\u0e37\u0e38\u0e39\u0e3a\ufffd\ufffd\ufffd\ufffd\u0e3f" ++
      "เแโใไๅๆ\u0e47\u0e48\u0e49\u0e4a\u0e4b\u0e4c\u0e4d\u0e4e\u0e4f" ++
      "\u0e50\u0e51\u0e52\u0e53\u0e54\u0e55\u0e56\u0e57\u0e58\u0e59\u0e5a\u0e5b\ufffd\ufffd\ufffd\ufffd" },
  { names := ["iso8859_13"]
    aliases := ["iso_8859_13", "l7", "latin7"]
    upper :=
      "\u0080\u0081\u0082\u0083\u0084\u0085\u0086\u0087\u0088\u0089\u008a\u008b\u008c\u008d\u008e\u008f" ++
      "\u0090\u0091\u0092\u0093\u0094\u0095\u0096\u0097\u0098\u0099\u009a\u009b\u009c\u009d\u009e\u009f" ++
      "\u00a0\u201d\u00a2\u00a3\u00a4\u201e\u00a6\u00a7Ø\u00a9Ŗ\u00ab\u00ac\u00ad\u00aeÆ" ++
      "\u00b0\u00b1\u00b2\u00b3\u201cµ\u00b6\u00b7ø\u00b9ŗ\u00bb\u00bc\u00bd\u00beæ" ++
      "ĄĮĀĆÄÅĘĒČÉŹĖĢĶĪĻ" ++
      "ŠŃŅÓŌÕÖ\u00d7ŲŁŚŪÜŻŽß" ++
      "ąįāćäåęēčéźėģķīļ" ++
      "šńņóōõö\u00f7ųłśūüżž\u2019" },
  { names := ["iso8859_14"]
    aliases := ["iso_8859_14", "iso_8859_14_1998", "iso_celtic", "iso_ir_199", "l8", "latin8"]
    upper :=
      "\u0080\u0081\u0082\u0083\u0084\u0085\u0086\u0087\u0088\u0089\u008a\u008b\u008c\u008d\u008e\u008f" ++
      "\u0090\u0091\u0092\u0093\u0094\u0095\u0096\u0097\u0098\u0099\u009a\u009b\u009c\u009d\u009e\u009f" ++
      "\u00a0Ḃḃ\u00a3ĊċḊ\u00a7Ẁ\u00a9ẂḋỲ\u00ad\u00aeŸ" ++
      "ḞḟĠġṀṁ\u00b6ṖẁṗẃṠỳẄẅṡ" ++
      "ÀÁÂÃÄÅÆÇÈÉÊËÌÍÎÏ" ++
      "ŴÑÒÓÔÕÖṪØÙÚÛÜÝŶß" ++
      "àáâãäåæçèéêëìíîï" ++
      "ŵñòóôõöṫøùúûüýŷÿ" },
  { names := ["iso8859_15"]
    aliases := ["iso_8859_15", "l9", "latin9"]
    upper :=
      "\u0080\u0081\u0082\u0083\u0084\u0085\u0086\u0087\u0088\u0089\u008a\u008b\u008c\u008d\u008e\u008f" ++
      "\u0090\u0091\u0092\u0093\u0094\u0095\u0096\u0097\u0098\u0099\u009a\u009b\u009c\u009d\u009e\u009f" ++
      "\u00a0\u00a1\u00a2\u00a3\u20ac\u00a5Š\u00a7š\u00a9ª\u00ab\u00ac\u00ad\u00ae\u00af" ++
      "\u00b0\u00b1\u00b2\u00b3Žµ\u00b6\u00b7ž\u00b9º\u00bbŒœŸ\u00bf" ++
      "ÀÁÂÃÄÅÆÇÈÉÊËÌÍÎÏ" ++
      "ÐÑÒÓÔÕÖ\u00d7ØÙÚÛÜÝÞß" ++
      "àáâãäåæçèéêëìíîï" ++
      "ðñòóôõö\u00f7øùúûüýþÿ" },
  { names := ["iso8859_16"]
    aliases := ["iso_8859_16", "iso_8859_16_2001", "iso_ir_226", "l10", "latin10"]
    upper :=
      "\u0080\u0081\u0082\u0083\u0084\u0085\u0086\u0087\u0088\u0089\u008a\u008b\u008c\u008d\u008e\u008f" ++
      "\u0090\u0091\u0092\u0093\u0094\u0095\u0096\u0097\u0098\u0099\u009a\u009b\u009c\u009d\u009e\u009f" ++
      "\u00a0ĄąŁ\u20ac\u201eŠ\u00a7š\u00a9Ș\u00abŹ\u00adźŻ" ++
      "\u00b0\u00b1ČłŽ\u201d\u00b6\u00b7žčș\u00bbŒœŸż" ++
      "ÀÁÂĂÄĆÆÇÈÉÊËÌÍÎÏ" ++
      "ĐŃÒÓÔŐÖŚŰÙÚÛÜĘȚß" ++
      "àáâăäćæçèéêëìíîï" ++
      "đńòóôőöśűùúûüęțÿ" },
  { names := ["iso8859_2"]
    aliases := ["csisolatin2", "iso_8859_2", "iso_8859_2_1987", "iso_ir_101", "l2", "latin2"]
    upper :=
      "\u0080\u0081\u0082\u0083\u0084\u0085\u0086\u0087\u0088\u0089\u008a\u008b\u008c\u008d\u008e\u008f" ++
      "\u0090\u0091\u0092\u0093\u0094\u0095\u0096\u0097\u0098\u0099\u009a\u009b\u009c\u009d\u009e\u009f" ++
      "\u00a0Ą\u02d8Ł\u00a4ĽŚ\u00a7\u00a8ŠŞŤŹ\u00adŽŻ" ++
      "\u00b0ą\u02dbł\u00b4ľś\u02c7\u00b8šşťź\u02ddžż" ++
      "ŔÁÂĂÄĹĆÇČÉĘËĚÍÎĎ" ++
      "ĐŃŇÓÔŐÖ\u00d7ŘŮÚŰÜÝŢß" ++
      "ŕáâăäĺćçčéęëěíîď" ++
      "đńňóôőö\u00f7řůúűüýţ\u02d9" },
  { names := ["iso8859_3"]
    aliases := ["csisolatin3", "iso_8859_3", "iso_8859_3_1988", "iso_ir_109", "l3", "latin3"]
    upper :=
      "\u0080\u0081\u0082\u0083\u0084\u0085\u0086\u0087\u0088\u0089\u008a\u008b\u008c\u008d\u008e\u008f" ++
      "\u0090\u0091\u0092\u0093\u0094\u0095\u0096\u0097\u0098\u0099\u009a\u009b\u009c\u009d\u009e\u009f" ++
      "\u00a0Ħ\u02d8\u00a3\u00a4\ufffdĤ\u00a7\u00a8İŞĞĴ\u00ad\ufffdŻ" ++
      "\u00b0ħ\u00b2\u00b3\u00b4µĥ\u00b7\u00b8ışğĵ\u00bd\ufffdż" ++
      "ÀÁÂ\ufffdÄĊĈÇÈÉÊËÌÍÎÏ" ++
      "\ufffdÑÒÓÔĠÖ\u00d7ĜÙÚÛÜŬŜß" ++
      "àáâ\ufffdäċĉçèéêëìíîï" ++
      "\ufffdñòóôġö\u00f7ĝùúûüŭŝ\u02d9" },
  { names := ["iso8859_4"]
    aliases := ["csisolatin4", "iso_8859_4", "iso_8859_4_1988", "iso_ir_110", "l4", "latin4"]
    upper :=
      "\u0080\u0081\u0082\u0083\u0084\u0085\u0086\u0087\u0088\u0089\u008a\u008b\u008c\u008d\u008e\u008f" ++
      "\u0090\u0091\u0092\u0093\u0094\u0095\u0096\u0097\u0098\u0099\u009a\u009b\u009c\u009d\u009e\u009f" ++
      "\u00a0ĄĸŖ\u00a4ĨĻ\u00a7\u00a8ŠĒĢŦ\u00adŽ\u00af" ++
      "\u00b0ą\u02dbŗ\u00b4ĩļ\u02c7\u00b8šēģŧŊžŋ" ++
      "ĀÁÂÃÄÅÆĮČÉĘËĖÍÎĪ" ++
      "ĐŅŌĶÔÕÖ\u00d7ØŲÚÛÜŨŪß" ++
      "āáâãäåæįčéęëėíîī" ++
      "đņōķôõö\u00f7øųúûüũū\u02d9" },
  { names := ["iso8859_5"]
    aliases := ["csisolatincyrillic", "cyrillic", "iso_8859_5", "iso_8859_5_1988", "iso_ir_144"]
    upper :=
      "\u0080\u0081\u0082\u0083\u0084\u0085\u0086\u0087\u0088\u0089\u008a\u008b\u008c\u008d\u008e\u008f" ++
      "\u0090\u0091\u0092\u0093\u0094\u0095\u0096\u0097\u0098\u0099\u009a\u009b\u009c\u009d\u009e\u009f" ++
      "\u00a0ЁЂЃЄЅІЇЈЉЊЋЌ\u00adЎЏ" ++
      "АБВГДЕЖЗИЙКЛМНОП" ++
      "РСТУФХЦЧШЩЪЫЬЭЮЯ" ++
      "абвгдежзийклмноп" ++
      "рстуфхцчшщъыьэюя" ++
      "\u2116ёђѓєѕіїјљњћќ\u00a7ўџ" },
  { names := ["iso8859_6"]
    aliases := ["arabic", "asmo_708", "csisolatinarabic", "ecma_114", "iso_8859_6", "iso_8859_6_1987",
      "iso_ir_127"]
    upper :=
      "\u0080\u0081\u0082\u0083\u0084\u0085\u0086\u0087\u0088\u0089\u008a\u008b\u008c\u008d\u008e\u008f" ++
      "\u0090\u0091\u0092\u0093\u0094\u0095\u0096\u0097\u0098\u0099\u009a\u009b\u009c\u009d\u009e\u009f" ++
      "\u00a0\ufffd\ufffd\ufffd\u00a4\ufffd\ufffd\ufffd\ufffd\ufffd\ufffd\ufffd\u060c\u00ad\ufffd\ufffd" ++
      "\ufffd\ufffd\ufffd\ufffd\ufffd\ufffd\ufffd\ufffd\ufffd\ufffd\ufffd\u061b\ufffd\ufffd\ufffd\u061f" ++
      "\ufffd\u0621\u0622\u0623\u0624\u0625\u0626\u0627\u0628\u0629\u062a\u062b\u062c\u062d\u062e\u062f" ++
      "\u0630\u0631\u0632\u0633\u0634\u0635\u0636\u0637\u0638\u0639\u063a\ufffd\ufffd\ufffd\ufffd\ufffd" ++
      "\u0640\u0641\u0642\u0643\u0644\u0645\u0646\u0647\u0648\u0649\u064a\u064b\u064c\u064d\u064e\u064f" ++
      "\u0650\u0651\u0652\ufffd\ufffd\ufffd\ufffd\ufffd\ufffd\ufffd\ufffd\ufffd\ufffd\ufffd\ufffd\ufffd" },
  { names := ["iso8859_7"]
    aliases := ["csisolatingreek", "ecma_118", "elot_928", "greek", "greek8", "iso_8859_7",
      "iso_8859_7_1987", "iso_ir_126"]
    upper :=
      "\u0080\u0081\u0082\u0083\u0084\u0085\u0086\u0087\u0088\u0089\u008a\u008b\u008c\u008d\u008e\u008f" ++
      "\u0090\u0091\u0092\u0093\u0094\u0095\u0096\u0097\u0098\u0099\u009a\u009b\u009c\u009d\u009e\u009f" ++
      "\u00a0\u2018\u2019\u00a3\u20ac\u20af\u00a6\u00a7\u00a8\u00a9ͺ\u00ab\u00ac\u00ad\ufffd\u2015" ++
      "\u00b0\u00b1\u00b2\u00b3\u0384\u0385Ά\u00b7ΈΉΊ\u00bbΌ\u00bdΎΏ" ++
      "ΐΑΒΓΔΕΖΗΘΙΚΛΜΝΞΟ" ++
      "ΠΡ\ufffdΣΤΥΦΧΨΩΪΫάέήί" ++
      "ΰαβγδεζηθικλμνξο" ++
      "πρςστυφχψωϊϋόύώ\ufffd" },
  { names := ["iso8859_8"]
    aliases := ["csisolatinhebrew", "hebrew", "iso_8859_8", "iso_8859_8_1988", "iso_ir_138"]
    upper :=
      "\u0080\u0081\u0082\u0083\u0084\u0085\u0086\u0087\u0088\u0089\u008a\u008b\u008c\u008d\u008e\u008f" ++
      "\u0090\u0091\u0092\u0093\u0094\u0095\u0096\u0097\u0098\u0099\u009a\u009b\u009c\u009d\u009e\u009f" ++
      "\u00a0\ufffd\u00a2\u00a3\u00a4\u00a5\u00a6\u00a7\u00a8\u00a9\u00d7\u00ab\u00ac\u00ad\u00ae\u00af" ++
      "\u00b0\u00b1\u00b2\u00b3\u00b4µ\u00b6\u00b7\u00b8\u00b9\u00f7\u00bb\u00bc\u00bd\u00be\ufffd" ++
      "\ufffd\ufffd\ufffd\ufffd\ufffd\ufffd\ufffd\ufffd\ufffd\ufffd\ufffd\ufffd\ufffd\ufffd\ufffd\ufffd" ++
      "\ufffd\ufffd\ufffd\ufffd\ufffd\ufffd\ufffd\ufffd\ufffd\ufffd\ufffd\ufffd\ufffd\ufffd\ufffd\u2017" ++
      "\u05d0\u05d1\u05d2\u05d3\u05d4\u05d5\u05d6\u05d7\u05d8\u05d9\u05da\u05db\u05dc\u05dd\u05de\u05df" ++
      "\u05e0\u05e1\u05e2\u05e3\u05e4\u05e5\u05e6\u05e7\u05e8\u05e9\u05ea\ufffd\ufffd\u200e\u200f\ufffd" },
  { names := ["iso8859_9"]
    aliases := ["csisolatin5", "iso_8859_9", "iso_8859_9_1989", "iso_ir_148", "l5", "latin5"]
    upper :=
      "\u0080\u0081\u0082\u0083\u0084\u0085\u0086\u0087\u0088\u0089\u008a\u008b\u008c\u008d\u008e\u008f" ++
      "\u0090\u0091\u0092\u0093\u0094\u0095\u0096\u0097\u0098\u0099\u009a\u009b\u009c\u009d\u009e\u009f" ++
      "\u00a0\u00a1\u00a2\u00a3\u00a4\u00a5\u00a6\u00a7\u00a8\u00a9ª\u00ab\u00ac\u00ad\u00ae\u00af" ++
      "\u00b0\u00b1\u00b2\u00b3\u00b4µ\u00b6\u00b7\u00b8\u00b9º\u00bb\u00bc\u00bd\u00be\u00bf" ++
      "ÀÁÂÃÄÅÆÇÈÉÊËÌÍÎÏ" ++
      "ĞÑÒÓÔÕÖ\u00d7ØÙÚÛÜİŞß" ++
      "àáâãäåæçèéêëìíîï" ++
      "ğñòóôõö\u00f7øùúûüışÿ" },
  { names := ["koi8_r"]
    aliases := ["cskoi8r"]
    upper :=
      "\u2500\u2502\u250c\u2510\u2514\u2518\u251c\u2524\u252c\u2534\u253c\u2580\u2584\u2588\u258c\u2590" ++
      "\u2591\u2592\u2593\u2320\u25a0\u2219\u221a\u2248\u2264\u2265\u00a0\u2321\u00b0\u00b2\u00b7\u00f7" ++
      "\u2550\u2551\u2552ё\u2553\u2554\u2555\u2556\u2557\u2558\u2559\u255a\u255b\u255c\u255d\u255e" ++
      "\u255f\u2560\u2561Ё\u2562\u2563\u2564\u2565\u2566\u2567\u2568\u2569\u256a\u256b\u256c\u00a9" ++
      "юабцдефгхийклмно" ++
      "пярстужвьызшэщчъ" ++
      "ЮАБЦДЕФГХИЙКЛМНО" ++
      "ПЯРСТУЖВЬЫЗШЭЩЧЪ" },
  { names := ["koi8_t"]
    aliases := []
    upper :=
      "қғ\u201aҒ\u201e\u2026\u2020\u2021\ufffd\u2030ҳ\u2039ҲҷҶ\ufffd" ++
      "Қ\u2018\u2019\u201c\u201d\u2022\u2013\u2014\ufffd\u2122\ufffd\u203a\ufffd\ufffd\ufffd\ufffd" ++
      "\ufffdӯӮё\u00a4ӣ\u00a6\u00a7\ufffd\ufffd\ufffd\u00ab\u00ac\u00ad\u00ae\ufffd" ++
      "\u00b0\u00b1\u00b2Ё\ufffdӢ\u00b6\u00b7\ufffd\u2116\ufffd\u00bb\ufffd\ufffd\ufffd\u00a9" ++
      "юабцдефгхийклмно" ++
      "пярстужвьызшэщчъ" ++
      "ЮАБЦДЕФГХИЙКЛМНО" ++
      "ПЯРСТУЖВЬЫЗШЭЩЧЪ" },
  { names := ["koi8_u"]
    aliases := []
    upper :=
      "\u2500\u2502\u250c\u2510\u2514\u2518\u251c\u2524\u252c\u2534\u253c\u2580\u2584\u2588\u258c\u2590" ++
      "\u2591\u2592\u2593\u2320\u25a0\u2219\u221a\u2248\u2264\u2265\u00a0\u2321\u00b0\u00b2\u00b7\u00f7" ++
      "\u2550\u2551\u2552ёє\u2554ії\u2557\u2558\u2559\u255a\u255bґ\u255d\u255e" ++
      "\u255f\u2560\u2561ЁЄ\u2563ІЇ\u2566\u2567\u2568\u2569\u256aҐ\u256c\u00a9" ++
      "юабцдефгхийклмно" ++
      "пярстужвьызшэщчъ" ++
      "ЮАБЦДЕФГХИЙКЛМНО" ++
      "ПЯРСТУЖВЬЫЗШЭЩЧЪ" },
  { names := ["kz1048"]
    aliases := ["kz_1048", "rk1048", "strk1048_2002"]
    upper :=
      "ЂЃ\u201aѓ\u201e\u2026\u2020\u2021\u20ac\u2030Љ\u2039ЊҚҺЏ" ++
      "ђ\u2018\u2019\u201c\u201d\u2022\u2013\u2014\ufffd\u2122љ\u203aњқһџ" ++
      "\u00a0ҰұӘ\u00a4Ө\u00a6\u00a7Ё\u00a9Ғ\u00ab\u00ac\u00ad\u00aeҮ" ++
      "\u00b0\u00b1Ііөµ\u00b6\u00b7ё\u2116ғ\u00bbәҢңү" ++
      "АБВГДЕЖЗИЙКЛМНОП" ++
      "РСТУФХЦЧШЩЪЫЬЭЮЯ" ++
      "абвгдежзийклмноп" ++
      "рстуфхцчшщъыьэюя" },
  { names := ["mac_croatian"]
    aliases := []
    upper :=
      "ÄÅÇÉÑÖÜáàâäãåçéè" ++
      "êëíìîïñóòôöõúùûü" ++
      "\u2020\u00b0\u00a2\u00a3\u00a7\u2022\u00b6ß\u00aeŠ\u2122\u00b4\u00a8\u2260ŽØ" ++
      "\u221e\u00b1\u2264\u2265\u2206µ\u2202\u2211\u220fš\u222bªºΩžø" ++
      "\u00bf\u00a1\u00ac\u221aƒ\u2248Ć\u00abČ\u2026\u00a0ÀÃÕŒœ" ++
      "Đ\u2014\u201c\u201d\u2018\u2019\u00f7\u25ca\uf8ff\u00a9\u2044\u20ac\u2039\u203aÆ\u00bb" ++
      "\u2013\u00b7\u201a\u201e\u2030ÂćÁčÈÍÎÏÌÓÔ" ++
      "đÒÚÛÙı\u02c6\u02dc\u00afπË\u02da\u00b8Êæ\u02c7" },
  { names := ["mac_cyrillic"]
    aliases := ["maccyrillic"]
    upper :=
      "АБВГДЕЖЗИЙКЛМНОП" ++
      "РСТУФХЦЧШЩЪЫЬЭЮЯ" ++
      "\u2020\u00b0Ґ\u00a3\u00a7\u2022\u00b6І\u00ae\u00a9\u2122Ђђ\u2260Ѓѓ" ++
      "\u221e\u00b1\u2264\u2265іµґЈЄєЇїЉљЊњ" ++
      "јЅ\u00ac\u221aƒ\u2248\u2206\u00ab\u00bb\u2026\u00a0ЋћЌќѕ" ++
      "\u2013\u2014\u201c\u201d\u2018\u2019\u00f7\u201eЎўЏџ\u2116Ёёя" ++
      "абвгдежзийклмноп" ++
      "рстуфхцчшщъыьэю\u20ac" },
  { names := ["mac_greek"]
    aliases := ["macgreek"]
    upper :=
      "Ä\u00b9\u00b2É\u00b3ÖÜ\u0385àâä\u0384\u00a8çéè" ++
      "êë\u00a3\u2122îï\u2022\u00bd\u2030ôö\u00a6\u20acùûü" ++
      "\u2020ΓΔΘΛΞΠß\u00ae\u00a9ΣΪ\u00a7\u2260\u00b0\u00b7" ++
      "Α\u00b1\u2264\u2265\u00a5ΒΕΖΗΙΚΜΦΫΨΩ" ++
      "άΝ\u00acΟΡ\u2248Τ\u00ab\u00bb\u2026\u00a0ΥΧΆΈœ" ++
      "\u2013\u2015\u201c\u201d\u2018\u2019\u00f7ΉΊΌΎέήίόΏ" ++
      "ύαβψδεφγηιξκλμνο" ++
      "πώρστθωςχυζϊϋΐΰ\u00ad" },
  { names := ["mac_iceland"]
    aliases := ["maciceland"]
    upper :=
      "ÄÅÇÉÑÖÜáàâäãåçéè" ++
      "êëíìîïñóòôöõúùûü" ++
      "Ý\u00b0\u00a2\u00a3\u00a7\u2022\u00b6ß\u00ae\u00a9\u2122\u00b4\u00a8\u2260ÆØ" ++
      "\u221e\u00b1\u2264\u2265\u00a5µ\u2202\u2211\u220fπ\u222bªºΩæø" ++
      "\u00bf\u00a1\u00ac\u221aƒ\u2248\u2206\u00ab\u00bb\u2026\u00a0ÀÃÕŒœ" ++
      "\u2013\u2014\u201c\u201d\u2018\u2019\u00f7\u25caÿŸ\u2044\u20acÐðÞþ" ++
      "ý\u00b7\u201a\u201e\u2030ÂÊÁËÈÍÎÏÌÓÔ" ++
      "\uf8ffÒÚÛÙı\u02c6\u02dc\u00af\u02d8\u02d9\u02da\u00b8\u02dd\u02db\u02c7" },
  { names := ["mac_latin2"]
    aliases := ["mac_centeuro", "maccentraleurope", "maclatin2"]
    upper :=
      "ÄĀāÉĄÖÜáąČäčĆćéŹ" ++
      "źĎíďĒēĖóėôöõúĚěü" ++
      "\u2020\u00b0Ę\u00a3\u00a7\u2022\u00b6ß\u00ae\u00a9\u2122ę\u00a8\u2260ģĮ" ++
      "įĪ\u2264\u2265īĶ\u2202\u2211łĻļĽľĹĺŅ" ++
      "ņŃ\u00ac\u221ańŇ\u2206\u00ab\u00bb\u2026\u00a0ňŐÕőŌ" ++
      "\u2013\u2014\u201c\u201d\u2018\u2019\u00f7\u25caōŔŕŘ\u2039\u203ařŖ" ++
      "ŗŠ\u201a\u201ešŚśÁŤťÍŽžŪÓÔ" ++
      "ūŮÚůŰűŲųÝýķŻŁżĢ\u02c7" },
  { names := ["mac_roman"]
    aliases := ["macintosh", "macroman"]
    upper :=
      "ÄÅÇÉÑÖÜáàâäãåçéè" ++
      "êëíìîïñóòôöõúùûü" ++
      "\u2020\u00b0\u00a2\u00a3\u00a7\u2022\u00b6ß\u00ae\u00a9\u2122\u00b4\u00a8\u2260ÆØ" ++
      "\u221e\u00b1\u2264\u2265\u00a5µ\u2202\u2211\u220fπ\u222bªºΩæø" ++
      "\u00bf\u00a1\u00ac\u221aƒ\u2248\u2206\u00ab\u00bb\u2026\u00a0ÀÃÕŒœ" ++
      "\u2013\u2014\u201c\u201d\u2018\u2019\u00f7\u25caÿŸ\u2044\u20ac\u2039\u203aﬁﬂ" ++
      "\u2021\u00b7\u201a\u201e\u2030ÂÊÁËÈÍÎÏÌÓÔ" ++
      "\uf8ffÒÚÛÙı\u02c6\u02dc\u00af\u02d8\u02d9\u02da\u00b8\u02dd\u02db\u02c7" },
  { names := ["mac_romanian"]
    aliases := []
    upper :=
      "ÄÅÇÉÑÖÜáàâäãåçéè" ++
      "êëíìîïñóòôöõúùûü" ++
      "\u2020\u00b0\u00a2\u00a3\u00a7\u2022\u00b6ß\u00ae\u00a9\u2122\u00b4\u00a8\u2260ĂȘ" ++
      "\u221e\u00b1\u2264\u2265\u00a5µ\u2202\u2211\u220fπ\u222bªºΩăș" ++
      "\u00bf\u00a1\u00ac\u221aƒ\u2248\u2206\u00ab\u00bb\u2026\u00a0ÀÃÕŒœ" ++
      "\u2013\u2014\u201c\u201d\u2018\u2019\u00f7\u25caÿŸ\u2044\u20ac\u2039\u203aȚț" ++
      "\u2021\u00b7\u201a\u201e\u2030ÂÊÁËÈÍÎÏÌÓÔ" ++
      "\uf8ffÒÚÛÙı\u02c6\u02dc\u00af\u02d8\u02d9\u02da\u00b8\u02dd\u02db\u02c7" },
  { names := ["mac_turkish"]
    aliases := ["macturkish"]
    upper :=
      "ÄÅÇÉÑÖÜáàâäãåçéè" ++
      "êëíìîïñóòôöõúùûü" ++
      "\u2020\u00b0\u00a2\u00a3\u00a7\u2022\u00b6ß\u00ae\u00a9\u2122\u00b4\u00a8\u2260ÆØ" ++
      "\u221e\u00b1\u2264\u2265\u00a5µ\u2202\u2211\u220fπ\u222bªºΩæø" ++
      "\u00bf\u00a1\u00ac\u221aƒ\u2248\u2206\u00ab\u00bb\u2026\u00a0ÀÃÕŒœ" ++
      "\u2013\u2014\u201c\u201d\u2018\u2019\u00f7\u25caÿŸĞğİıŞş" ++
      "\u2021\u00b7\u201a\u201e\u2030ÂÊÁËÈÍÎÏÌÓÔ" ++
      "\uf8ffÒÚÛÙ\uf8a0\u02c6\u02dc\u00af\u02d8\u02d9\u02da\u00b8\u02dd\u02db\u02c7" },
  { names := ["palmos"]
    aliases := []
    upper :=
      "\u20ac\u0081\u201aƒ\u201e\u2026\u2020\u2021\u02c6\u2030Š\u2039Œ\u2666\u2663\u2665" ++
      "\u2660\u2018\u2019\u201c\u201d\u2022\u2013\u2014\u02dc\u2122š\u009bœ\u009d\u009eŸ" ++
      "\u00a0\u00a1\u00a2\u00a3\u00a4\u00a5\u00a6\u00a7\u00a8\u00a9ª\u00ab\u00ac\u00ad\u00ae\u00af" ++
      "\u00b0\u00b1\u00b2\u00b3\u00b4µ\u00b6\u00b7\u00b8\u00b9º\u00bb\u00bc\u00bd\u00be\u00bf" ++
      "ÀÁÂÃÄÅÆÇÈÉÊËÌÍÎÏ" ++
      "ÐÑÒÓÔÕÖ\u00d7ØÙÚÛÜÝÞß" ++
      "àáâãäåæçèéêëìíîï" ++
      "ðñòóôõö\u00f7øùúûüýþÿ" },
  { names := ["ptcp154"]
    aliases := ["cp154", "csptcp154", "cyrillic_asian", "pt154"]
    upper :=
      "ҖҒӮғ\u201e\u2026ҶҮҲүҠӢҢҚҺҸ" ++
      "җ\u2018\u2019\u201c\u201d\u2022\u2013\u2014ҳҷҡӣңқһҹ" ++
      "\u00a0ЎўЈӨҘҰ\u00a7Ё\u00a9Ә\u00ab\u00acӯ\u00aeҜ" ++
      "\u00b0ұІіҙө\u00b6\u00b7ё\u2116ә\u00bbјҪҫҝ" ++
      "АБВГДЕЖЗИЙКЛМНОП" ++
      "РСТУФХЦЧШЩЪЫЬЭЮЯ" ++
      "абвгдежзийклмноп" ++
      "рстуфхцчшщъыьэюя" },
  { names := ["tis_620"]
    aliases := ["iso_ir_166", "tis620", "tis_620_0", "tis_620_2529_0", "tis_620_2529_1"]
    upper :=
      "\u0080\u0081\u0082\u0083\u0084\u0085\u0086\u0087\u0088\u0089\u008a\u008b\u008c\u008d\u008e\u008f" ++
      "\u0090\u0091\u0092\u0093\u0094\u0095\u0096\u0097\u0098\u0099\u009a\u009b\u009c\u009d\u009e\u009f" ++
      "\ufffdกขฃคฅฆงจฉชซฌญฎฏ" ++
      "ฐฑฒณดตถทธนบปผฝพฟ" ++
      "ภมยรฤลฦวศษสหฬอฮฯ" ++
      "ะ\u0e31าำ\u0e34\u0e35\u0e36\u0e37\u0e38\u0e39\u0e3a\ufffd\ufffd\ufffd\ufffd\u0e3f" ++
      "เแโใไๅๆ\u0e47\u0e48\u0e49\u0e4a\u0e4b\u0e4c\u0e4d\u0e4e\u0e4f" ++
      "\u0e50\u0e51\u0e52\u0e53\u0e54\u0e55\u0e56\u0e57\u0e58\u0e59\u0e5a\u0e5b\ufffd\ufffd\ufffd\ufffd" }]

/-- The names of encodings that need several bytes for some characters. -/
def multiByteNames : List String := ["big5", "big5hkscs", "cp932", "cp949", "cp950", "euc_jis_2004", "euc_jisx0213", "euc_jp",
  "euc_kr", "gb18030", "gb2312", "gbk", "iso2022_kr", "johab", "shift_jis", "shift_jis_2004",
  "shift_jisx0213", "utf_16", "utf_16_be", "utf_16_le", "utf_32", "utf_32_be", "utf_32_le",
  "utf_7"]

/-- Further names of encodings that need several bytes for some characters. -/
def multiByteAliases : List String := ["932", "936", "949", "950", "big5_hkscs", "big5_tw", "chinese", "cp1361", "cp936", "csbig5",
  "csiso2022kr", "csiso58gb231280", "csshiftjis", "euc_cn", "euc_jis2004", "euccn",
  "eucgb2312_cn", "eucjis2004", "eucjisx0213", "eucjp", "euckr", "gb18030_2000", "gb2312_1980",
  "gb2312_80", "hkscs", "iso2022kr", "iso_2022_kr", "iso_ir_58", "jisx0213", "korean",
  "ks_c_5601", "ks_c_5601_1987", "ks_x_1001", "ksc5601", "ksx1001", "ms1361", "ms932", "ms936",
  "ms949", "ms950", "ms_kanji", "mskanji", "s_jis", "s_jis_2004", "s_jisx0213", "shiftjis",
  "shiftjis2004", "shiftjisx0213", "sjis", "sjis_2004", "sjisx0213", "u16", "u32", "u7", "u_jis",
  "uhc", "ujis", "unicode_1_1_utf_7", "unicodebigunmarked", "unicodelittleunmarked", "utf16",
  "utf32", "utf7", "utf_16be", "utf_16le", "utf_32be", "utf_32le", "x_mac_japanese",
  "x_mac_korean", "x_mac_simp_chinese", "x_mac_trad_chinese"]

/-- The names of encodings that do not decode to text. -/
def binaryNames : List String := ["base64_codec", "bz2_codec", "hex_codec", "quopri_codec", "rot_13", "uu_codec", "zlib_codec"]

/-- Further names of encodings that do not decode to text. -/
def binaryAliases : List String := ["base64", "base_64", "bz2", "hex", "quopri", "quoted_printable", "quotedprintable", "rot13",
  "uu", "zip", "zlib"]

/-- The names of one byte encodings that disagree with ASCII on a character of markup. -/
def incompatibleNames : List String := ["cp037", "cp1026", "cp1140", "cp273", "cp424", "cp500", "cp864", "cp875", "mac_arabic",
  "mac_farsi"]

/-- Further names of one byte encodings that disagree with ASCII on a character of markup. -/
def incompatibleAliases : List String := ["037", "1026", "1140", "273", "424", "500", "864", "csibm037", "csibm1026", "csibm273",
  "csibm424", "csibm500", "csibm864", "ebcdic_cp_be", "ebcdic_cp_ca", "ebcdic_cp_ch",
  "ebcdic_cp_he", "ebcdic_cp_nl", "ebcdic_cp_us", "ebcdic_cp_wt", "ibm037", "ibm039", "ibm1026",
  "ibm1140", "ibm273", "ibm424", "ibm500", "ibm864"]

end RackElevation.Markup
