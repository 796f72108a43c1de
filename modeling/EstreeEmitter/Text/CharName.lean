import EstreeEmitter.Text.CharName.Alphabets
import EstreeEmitter.Text.CharName.EastAsia
import EstreeEmitter.Text.CharName.Supplement
import EstreeEmitter.Text.CharName.Symbols
import EstreeEmitter.Text.Range
import EstreeEmitter.Text.Scan

set_option autoImplicit false

/-! # Characters by name

Most assigned characters have a name of their own in a table. Names of ideographs hold their code
point in hexadecimal digits, and those of some other characters their place in a series; names of
Korean syllables are spelled by their parts. Controls, and characters with a wrong or long name,
have further names. Small ASCII letters in a name stand for capital ones, except in names of unified
ideographs and of syllables. -/

namespace EstreeEmitter.Text

/-! ## Names from the tables -/

/-- The words of a text. -/
def words (cs : List Char) : List (List Char) := splitOn ' ' cs

/-- The words that many names have. The tables write each of them with two small letters, of which
the first is one from `m` on. -/
def commonWords : Array String := #[
  "ABBREVIATION", "ABOVE", "ACCENT", "ACUTE", "ALEF", "ALMOST", "ALPAPRAANA", "ALPHA", "ALTERNATE",
  "ALTERNATING", "AND", "ANGLE", "ANTICLOCKWISE", "ANUSVARA", "APOSTROPHE", "ARABIC",
  "ARABIC-INDIC", "ARCHAIC", "ARCHAION", "ARROW", "ARROWHEAD", "ARROWS", "ASH", "ASTERISK",
  "AVAGRAHA", "BAR", "BARB", "BELOW", "BENGALI", "BENT", "BETWEEN", "BHA", "BLACK", "BLOCK", "BOLD",
  "BOTTOM", "BRACKET", "BREVE", "C-SIMPLIFIED", "CANDRA", "CANDRABINDU", "CAPITAL", "CARON",
  "CEDILLA", "CENTRE", "CHA", "CHARACTERS", "CHESS", "CIRCLE", "CIRCLED", "CIRCLES", "CIRCUMFLEX",
  "CLOCKWISE", "CLOSED", "COLON", "COMBINING", "COMMA", "CONJOINED", "CONSONANT", "COPTIC",
  "CORNER", "CROSS", "CROSSED", "CROSSED-TAIL", "CROSSING", "CRYPTOGRAMMIC", "CURLY", "CURVE",
  "CYRILLIC", "DAGESH", "DANDA", "DASH", "DASIA", "DDA", "DDHA", "DEGREES", "DELTA", "DESCENDER",
  "DHA", "DIAERESIS", "DIAGONAL", "DIALYTIKA", "DIAMOND", "DIAMONDS", "DIGIT", "DIGRAPH", "DISH",
  "DOT", "DOTLESS", "DOTS", "DOTTED", "DOUBLE", "DOUBLE-STRUCK", "DOWN", "DOWN-POINTING",
  "DOWNWARDS", "EAST", "EIGHT", "EIGHTH", "EIGHTHS", "EIGHTY", "EPSILON", "EQUAL", "EQUALS",
  "EQUILATERAL", "EQUIVALENT", "ETHIOPIC", "EXCLAMATION", "FACE", "FIFTY", "FINAL", "FINGERS",
  "FIVE", "FOR", "FORM", "FORTY", "FORWARD", "FOUR", "FRACTION", "FROM", "FULL", "GAMMA",
  "GEORGIAN", "GHA", "GLOTTAL", "GRANTHA", "GRAVE", "GREATER-THAN", "GREEK", "GUJARATI", "GUNU",
  "GURMUKHI", "HAH", "HALF", "HAMZA", "HAND", "HAND-ANGLE", "HAND-CIRCLE", "HAND-FIST",
  "HAND-HINGE", "HARPOON", "HEART", "HEARTS", "HEAVY", "HIGH", "HINGED", "HITTING", "HOOK",
  "HORIZONTAL", "HORN", "HUNDRED", "IDEOGRAPHIC", "INDEPENDENT", "INDEX", "INITIAL", "INSIDE",
  "INSULAR", "INTEGRAL", "INTERSECTION", "INVERTED", "IOTA", "IOTIFIED", "ISOLATED", "JEEM", "JHA",
  "KANNADA", "KAPPA", "KATAKANA", "KHA", "KHAH", "KNIGHT", "KRYZHEM", "LAM", "LAMEDH", "LARGE",
  "LATIN", "LEFT", "LEFT-POINTING", "LEFT-STEM", "LEFTWARDS", "LENGTH", "LESS-THAN", "LETTER",
  "LIGATURE", "LIGHT", "LINE", "LITTLE", "LOGICAL", "LONG", "LOW", "LOWER", "LOZENGE", "MACRON",
  "MAHAAPRAANA", "MAKSURA", "MARK", "MATHEMATICAL", "MEDIAL", "MEDIUM", "MEEM", "MIDDLE", "MINUS",
  "MODIFIER", "MOON", "MOUTH", "MOVEMENT-FLOORPLANE", "MOVEMENT-WALLPLANE", "MULTIPLE",
  "MULTIPLICATION", "MUSICAL", "NEGATIVE", "NEUTRAL", "NGA", "NINE", "NINETY", "NNA", "NOON",
  "NORTH", "NOT", "NOTEHEAD", "NUKTA", "NUMBER", "NUN", "NYA", "OBLIQUE", "OGONEK", "OLD", "OMEGA",
  "OMICRON", "ONE", "OPEN", "OPERATOR", "ORKHON", "ORNAMENT", "OVER", "OVERBAR", "OVERLAY", "OXIA",
  "PALATAL", "PARENTHESIS", "PERISPOMENI", "PERSON", "PHA", "PLUS", "POINTED", "POINTING",
  "PRECEDES", "PRODUCT", "PROSGEGRAMMENI", "PSILI", "PUNCTUATION", "QUADRANT", "QUADRUPLE",
  "QUARTER", "QUARTERS", "QUESTION", "QUOTATION", "RAISED", "RETROFLEX", "REVERSE", "REVERSED",
  "RIGHT", "RIGHT-POINTING", "RIGHTWARDS", "RING", "ROTATED", "ROTATION-FLOORPLANE",
  "ROTATION-WALLPLANE", "SAMEKH", "SANS-SERIF", "SCRIPT", "SECTION", "SEEN", "SEMICOLON",
  "SEPARATOR", "SEVEN", "SEVENTY", "SHA", "SHADOWED", "SHAFT", "SHEEN", "SHELL", "SHIN", "SHORT",
  "SIDE", "SIGMA", "SIGN", "SIMALUNGUN", "SINGLE", "SINHALA", "SIX", "SLANTED", "SMALL", "SMILING",
  "SOLIDUS", "SOUTH", "SPACE", "SPOKED", "SQUARE", "SQUARED", "SSA", "STAR", "STOP", "STRAIGHT",
  "STROKE", "SUBSET", "SUCCEEDS", "SUPERSCRIPT", "SUPERSET", "SYLLABLE", "SYMBOL", "TACK", "TAIL",
  "TAMIL", "TEARDROP-SPOKED", "TELEPHONE", "TEN", "TENU", "THA", "THE", "THETA", "THIRTY",
  "THOUSAND", "THREE", "THROUGH", "THUMB", "TILDE", "TIMES", "TONE", "TONOS", "TOP", "TORTOISE",
  "TRIANGLE", "TRIANGLE-HEADED", "TRIANGULAR", "TRIPLE", "TTA", "TTHA", "TURNED", "TWENTY", "TWO",
  "TWO-HEADED", "UNDERBAR", "UP-POINTING", "UPPER", "UPSILON", "UPWARDS", "VARIA", "VARIANT",
  "VERTICAL", "VERY", "VIRAMA", "VISARGA", "VOCALIC", "VOWEL", "WAW", "WEST", "WEST-CREE", "WHITE",
  "WITH", "YEH", "YENISEI", "YPOGEGRAMMENI", "ZERO"]

/-- The text of a run with its common words written out, each between spaces. -/
def writtenOut : List Char → List Char
  | c :: d :: cs =>
    if 'm' ≤ c && c ≤ 'z' then
      let place := 26 * (c.toNat - 'm'.toNat) + (d.toNat - 'a'.toNat)
      ' ' :: (commonWords.getD place "").toList ++ ' ' :: writtenOut cs
    else c :: writtenOut (d :: cs)
  | cs => cs

/-- The entries of a run: the number of words kept from the name before, and the words that follow
them. In a run a small letter up to `l` stands before every name and tells how many words it has in
common with the start of the name before it, from `a` for none; these words are left out. Line feeds
have no meaning. -/
def nameEntries (cs : List Char) : List (Nat × List (List Char)) :=
  ((writtenOut cs).foldr (fun c (rest : List Char × List (Nat × List (List Char))) =>
    if c == '\n' then rest
    else if c.isLower then
      ([], (c.toNat - 'a'.toNat, (words rest.1).filter (!·.isEmpty)) :: rest.2)
    else (c :: rest.1, rest.2)) ([], [])).2

/-- The place of a name among the entries of a run, where the name before has the words `last`. -/
def placeOfName? (name : List (List Char)) :
    List (List Char) → List (Nat × List (List Char)) → Option Nat
  | _, [] => none
  | last, (kept, more) :: rest =>
    let here := last.take kept ++ more
    if here == name then some 0 else (placeOfName? name here rest).map (· + 1)

/-- The character with a name of a table. -/
def findName? (name : List (List Char)) (runs : List (Nat × String)) : Option Nat :=
  runs.findSome? fun (first, text) =>
    (placeOfName? name [] (nameEntries text.toList)).map (first + ·)

/-! ## Names with a code point -/

/-- The value of hexadecimal digits with capital letters. -/
def capitalHex? (cs : List Char) : Option Nat :=
  cs.foldl (fun n c => do
    let n ← n
    if c.isDigit then return n * 16 + (c.toNat - '0'.toNat)
    else if 'A' ≤ c && c ≤ 'F' then return n * 16 + (c.toNat - 'A'.toNat + 10)
    else none) (some 0)

/-- The number behind the start of a name, if it is written with as few digits as possible, but at
least four, and lies in the ranges. -/
def numberedName? (start : String) (ranges : List (Nat × Nat)) (name : List Char) : Option Nat := do
  guard (start.toList.isPrefixOf name)
  let digits := name.drop start.length
  let n ← capitalHex? digits
  guard (digits.length == (if n < 0x10000 then 4 else 5) && inRanges ranges n)
  return n

/-- The unified ideographs. -/
def ideographRanges : List (Nat × Nat) := [
  (0x3400, 0x4DBF), (0x4E00, 0x9FFF), (0x20000, 0x2A6DF), (0x2A700, 0x2B738), (0x2B740, 0x2B81D),
  (0x2B820, 0x2CEA1), (0x2CEB0, 0x2EBE0), (0x30000, 0x3134A)]

/-- The start of the names of unified ideographs. -/
def ideographStart : String := "CJK UNIFIED IDEOGRAPH-"

/-- The unified ideograph with a name, which has four or five digits. -/
def ideograph? (name : List Char) : Option Nat := do
  let digits := name.drop ideographStart.length
  guard (digits.length == 4 || digits.length == 5)
  let n ← capitalHex? digits
  guard (inRanges ideographRanges n)
  return n

/-! ## Korean syllables -/

/-- The initial consonants. -/
def initials : List String :=
  ["G", "GG", "N", "D", "DD", "R", "M", "B", "BB", "S", "SS", "", "J", "JJ", "C", "K", "T", "P",
    "H"]

/-- The vowels. -/
def vowels : List String :=
  ["A", "AE", "YA", "YAE", "EO", "E", "YEO", "YE", "O", "WA", "WAE", "OE", "YO", "U", "WEO", "WE",
    "WI", "YU", "EU", "YI", "I"]

/-- The final consonants. -/
def finals : List String :=
  ["", "G", "GG", "GS", "N", "NJ", "NH", "D", "L", "LG", "LM", "LB", "LS", "LT", "LP", "LH", "M",
    "B", "BS", "S", "SS", "NG", "J", "C", "K", "T", "P", "H"]

/-- The longest of some parts that a text starts with, by its place, and the rest of the text. -/
def longestPart? (parts : List String) (cs : List Char) : Option (Nat × List Char) :=
  let found : Option (Nat × Nat) := parts.zipIdx.foldl (fun best (part, i) =>
    if part.toList.isPrefixOf cs && best.all (·.2 < part.length) then some (i, part.length)
    else best) none
  found.map fun (i, n) => (i, cs.drop n)

/-- The start of the names of syllables. -/
def syllableStart : String := "HANGUL SYLLABLE "

/-- The syllable with a name. -/
def syllable? (name : List Char) : Option Nat := do
  let (l, rest) ← longestPart? initials (name.drop syllableStart.length)
  let (v, rest) ← longestPart? vowels rest
  let (t, rest) ← longestPart? finals rest
  guard rest.isEmpty
  return 0xAC00 + (l * 21 + v) * 28 + t

/-! ## Further names -/

/-- Names of controls, abbreviations and corrected names. -/
def furtherNames : List (Nat × String) := [
  (0x0, "NULL"), (0x0, "NUL"), (0x1, "START OF HEADING"), (0x1, "SOH"), (0x2, "START OF TEXT"),
  (0x2, "STX"), (0x3, "END OF TEXT"), (0x3, "ETX"), (0x4, "END OF TRANSMISSION"), (0x4, "EOT"),
  (0x5, "ENQUIRY"), (0x5, "ENQ"), (0x6, "ACKNOWLEDGE"), (0x6, "ACK"), (0x7, "ALERT"), (0x7, "BEL"),
  (0x8, "BACKSPACE"), (0x8, "BS"), (0x9, "CHARACTER TABULATION"), (0x9, "HORIZONTAL TABULATION"),
  (0x9, "HT"), (0x9, "TAB"), (0xA, "LINE FEED"), (0xA, "NEW LINE"), (0xA, "END OF LINE"),
  (0xA, "EOL"), (0xA, "LF"), (0xA, "NL"), (0xB, "LINE TABULATION"), (0xB, "VERTICAL TABULATION"),
  (0xB, "VT"), (0xC, "FORM FEED"), (0xC, "FF"), (0xD, "CARRIAGE RETURN"), (0xD, "CR"),
  (0xE, "SHIFT OUT"), (0xE, "LOCKING-SHIFT ONE"), (0xE, "SO"), (0xF, "SHIFT IN"),
  (0xF, "LOCKING-SHIFT ZERO"), (0xF, "SI"), (0x10, "DATA LINK ESCAPE"), (0x10, "DLE"),
  (0x11, "DEVICE CONTROL ONE"), (0x11, "DC1"), (0x12, "DEVICE CONTROL TWO"), (0x12, "DC2"),
  (0x13, "DEVICE CONTROL THREE"), (0x13, "DC3"), (0x14, "DEVICE CONTROL FOUR"), (0x14, "DC4"),
  (0x15, "NEGATIVE ACKNOWLEDGE"), (0x15, "NAK"), (0x16, "SYNCHRONOUS IDLE"), (0x16, "SYN"),
  (0x17, "END OF TRANSMISSION BLOCK"), (0x17, "ETB"), (0x18, "CANCEL"), (0x18, "CAN"),
  (0x19, "END OF MEDIUM"), (0x19, "EOM"), (0x1A, "SUBSTITUTE"), (0x1A, "SUB"), (0x1B, "ESCAPE"),
  (0x1B, "ESC"), (0x1C, "INFORMATION SEPARATOR FOUR"), (0x1C, "FILE SEPARATOR"), (0x1C, "FS"),
  (0x1D, "INFORMATION SEPARATOR THREE"), (0x1D, "GROUP SEPARATOR"), (0x1D, "GS"),
  (0x1E, "INFORMATION SEPARATOR TWO"), (0x1E, "RECORD SEPARATOR"), (0x1E, "RS"),
  (0x1F, "INFORMATION SEPARATOR ONE"), (0x1F, "UNIT SEPARATOR"), (0x1F, "US"), (0x20, "SP"),
  (0x7F, "DELETE"), (0x7F, "DEL"), (0x80, "PADDING CHARACTER"), (0x80, "PAD"),
  (0x81, "HIGH OCTET PRESET"), (0x81, "HOP"), (0x82, "BREAK PERMITTED HERE"), (0x82, "BPH"),
  (0x83, "NO BREAK HERE"), (0x83, "NBH"), (0x84, "INDEX"), (0x84, "IND"), (0x85, "NEXT LINE"),
  (0x85, "NEL"), (0x86, "START OF SELECTED AREA"), (0x86, "SSA"), (0x87, "END OF SELECTED AREA"),
  (0x87, "ESA"), (0x88, "CHARACTER TABULATION SET"), (0x88, "HORIZONTAL TABULATION SET"),
  (0x88, "HTS"), (0x89, "CHARACTER TABULATION WITH JUSTIFICATION"),
  (0x89, "HORIZONTAL TABULATION WITH JUSTIFICATION"), (0x89, "HTJ"), (0x8A, "LINE TABULATION SET"),
  (0x8A, "VERTICAL TABULATION SET"), (0x8A, "VTS"), (0x8B, "PARTIAL LINE FORWARD"),
  (0x8B, "PARTIAL LINE DOWN"), (0x8B, "PLD"), (0x8C, "PARTIAL LINE BACKWARD"),
  (0x8C, "PARTIAL LINE UP"), (0x8C, "PLU"), (0x8D, "REVERSE LINE FEED"), (0x8D, "REVERSE INDEX"),
  (0x8D, "RI"), (0x8E, "SINGLE SHIFT TWO"), (0x8E, "SINGLE-SHIFT-2"), (0x8E, "SS2"),
  (0x8F, "SINGLE SHIFT THREE"), (0x8F, "SINGLE-SHIFT-3"), (0x8F, "SS3"),
  (0x90, "DEVICE CONTROL STRING"), (0x90, "DCS"), (0x91, "PRIVATE USE ONE"),
  (0x91, "PRIVATE USE-1"), (0x91, "PU1"), (0x92, "PRIVATE USE TWO"), (0x92, "PRIVATE USE-2"),
  (0x92, "PU2"), (0x93, "SET TRANSMIT STATE"), (0x93, "STS"), (0x94, "CANCEL CHARACTER"),
  (0x94, "CCH"), (0x95, "MESSAGE WAITING"), (0x95, "MW"), (0x96, "START OF GUARDED AREA"),
  (0x96, "START OF PROTECTED AREA"), (0x96, "SPA"), (0x97, "END OF GUARDED AREA"),
  (0x97, "END OF PROTECTED AREA"), (0x97, "EPA"), (0x98, "START OF STRING"), (0x98, "SOS"),
  (0x99, "SINGLE GRAPHIC CHARACTER INTRODUCER"), (0x99, "SGC"),
  (0x9A, "SINGLE CHARACTER INTRODUCER"), (0x9A, "SCI"), (0x9B, "CONTROL SEQUENCE INTRODUCER"),
  (0x9B, "CSI"), (0x9C, "STRING TERMINATOR"), (0x9C, "ST"), (0x9D, "OPERATING SYSTEM COMMAND"),
  (0x9D, "OSC"), (0x9E, "PRIVACY MESSAGE"), (0x9E, "PM"), (0x9F, "APPLICATION PROGRAM COMMAND"),
  (0x9F, "APC"), (0xA0, "NBSP"), (0xAD, "SHY"), (0x1A2, "LATIN CAPITAL LETTER GHA"),
  (0x1A3, "LATIN SMALL LETTER GHA"), (0x34F, "CGJ"), (0x61C, "ALM"),
  (0x709, "SYRIAC SUBLINEAR COLON SKEWED LEFT"), (0xCDE, "KANNADA LETTER LLLA"),
  (0xE9D, "LAO LETTER FO FON"), (0xE9F, "LAO LETTER FO FAY"), (0xEA3, "LAO LETTER RO"),
  (0xEA5, "LAO LETTER LO"), (0xFD0, "TIBETAN MARK BKA- SHOG GI MGO RGYAN"),
  (0x11EC, "HANGUL JONGSEONG YESIEUNG-KIYEOK"), (0x11ED, "HANGUL JONGSEONG YESIEUNG-SSANGKIYEOK"),
  (0x11EE, "HANGUL JONGSEONG SSANGYESIEUNG"), (0x11EF, "HANGUL JONGSEONG YESIEUNG-KHIEUKH"),
  (0x180B, "FVS1"), (0x180C, "FVS2"), (0x180D, "FVS3"), (0x180E, "MVS"), (0x180F, "FVS4"),
  (0x200B, "ZWSP"), (0x200C, "ZWNJ"), (0x200D, "ZWJ"), (0x200E, "LRM"), (0x200F, "RLM"),
  (0x202A, "LRE"), (0x202B, "RLE"), (0x202C, "PDF"), (0x202D, "LRO"), (0x202E, "RLO"),
  (0x202F, "NNBSP"), (0x205F, "MMSP"), (0x2060, "WJ"), (0x2066, "LRI"), (0x2067, "RLI"),
  (0x2068, "FSI"), (0x2069, "PDI"), (0x2118, "WEIERSTRASS ELLIPTIC FUNCTION"),
  (0x2448, "MICR ON US SYMBOL"), (0x2449, "MICR DASH SYMBOL"),
  (0x2B7A, "LEFTWARDS TRIANGLE-HEADED ARROW WITH DOUBLE VERTICAL STROKE"),
  (0x2B7C, "RIGHTWARDS TRIANGLE-HEADED ARROW WITH DOUBLE VERTICAL STROKE"),
  (0xA015, "YI SYLLABLE ITERATION MARK"), (0xAA6E, "MYANMAR LETTER KHAMTI LLA"),
  (0xFE18, "PRESENTATION FORM FOR VERTICAL RIGHT WHITE LENTICULAR BRACKET"),
  (0xFEFF, "BYTE ORDER MARK"), (0xFEFF, "BOM"), (0xFEFF, "ZWNBSP"),
  (0x122D4, "CUNEIFORM SIGN NU11 TENU"), (0x122D5, "CUNEIFORM SIGN NU11 OVER NU11 BUR OVER BUR"),
  (0x16E56, "MEDEFAIDRIN CAPITAL LETTER H"), (0x16E57, "MEDEFAIDRIN CAPITAL LETTER NG"),
  (0x16E76, "MEDEFAIDRIN SMALL LETTER H"), (0x16E77, "MEDEFAIDRIN SMALL LETTER NG"),
  (0x1B001, "HENTAIGANA LETTER E-1"),
  (0x1D0C5, "BYZANTINE MUSICAL SYMBOL FTHORA SKLIRON CHROMA VASIS")]

/-- The variation selector with a short or a long name, which end in its number. -/
def variationSelector? (name : List Char) : Option Nat := do
  let digits ← after? ['V', 'S'] name <|> after? "VARIATION SELECTOR-".toList name
  guard (digits.all Char.isDigit && 1 ≤ digits.length && digits.length ≤ 3)
  guard (digits.head? != some '0')
  let n := digits.foldl (fun n c => n * 10 + (c.toNat - '0'.toNat)) 0
  if n ≤ 16 then return 0xFE00 + (n - 1)
  else if n ≤ 256 then return 0xE0100 + (n - 17)
  else none

/-- The Tangut component with a number of three digits. -/
def tangutComponent? (name : List Char) : Option Nat := do
  let digits ← after? "TANGUT COMPONENT-".toList name
  guard (digits.all Char.isDigit && digits.length == 3)
  let n := digits.foldl (fun n c => n * 10 + (c.toNat - '0'.toNat)) 0
  guard (1 ≤ n && n ≤ 768)
  return 0x18800 + (n - 1)

/-- The character with a name. -/
def codeOfName? (name : List Char) : Option Nat :=
  if syllableStart.toList.isPrefixOf name then syllable? name
  else if ideographStart.toList.isPrefixOf name then ideograph? name
  else
    let name := name.map Char.toUpper
    (furtherNames.findSome? fun (n, text) => if text.toList == name then some n else none)
      <|> variationSelector? name
      <|> tangutComponent? name
      <|> numberedName? "CJK COMPATIBILITY IDEOGRAPH-"
        [(0xF900, 0xFA6D), (0xFA70, 0xFAD9), (0x2F800, 0x2FA1D)] name
      <|> numberedName? "KHITAN SMALL SCRIPT CHARACTER-" [(0x18B00, 0x18CD5)] name
      <|> numberedName? "NUSHU CHARACTER-" [(0x1B170, 0x1B2FB)] name
      <|> [alphabetNames, symbolNames, eastAsianNames, supplementNames].findSome?
        (findName? (words name))

end EstreeEmitter.Text
