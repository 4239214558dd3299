import ScopeLint.Pattern.CharSet
import ScopeLint.Text.Attribute
import ScopeLint.Text.Category
import ScopeLint.Text.Edition
import ScopeLint.Text.Script
import ScopeLint.Text.Split

/-!
# Properties of characters

A pattern may name a set of characters by a property: a general category, a script, an edition, the
part that characters play in a cluster, a word or a sentence, or one of the properties that a
character has or has not.  Most of these sets are made up from a few tables by set operations.

A name is read without regard to case, spaces, underscores and hyphens, and `is` in front of it is
passed over.
-/

namespace ScopeLint.Pattern

/-- A set of characters with its names, which are written in small letters without separators. -/
structure Property where
  names : List String
  set : CharSet

namespace Property

open Text

def find? (table : List Property) (name : String) : Option CharSet :=
  (table.find? (·.names.contains name)).map Property.set

def unionOf (sets : List CharSet) : CharSet := sets.foldr .union .empty

/-! ## General categories -/

def casedLetter : CharSet :=
  unionOf [.listed capitalLetterRanges, .listed smallLetterRanges, .listed titleLetterRanges]

def letter : CharSet :=
  unionOf [casedLetter, .listed modifierLetterRanges, .listed otherLetterRanges]

def mark : CharSet :=
  unionOf [.listed nonspacingMarkRanges, .listed spacingMarkRanges, .listed enclosingMarkRanges]

def number : CharSet :=
  unionOf [.listed decimalNumberRanges, .listed letterNumberRanges, .listed otherNumberRanges]

def punctuation : CharSet :=
  unionOf [.listed connectorRanges, .listed dashPunctuationRanges, .listed openingRanges,
    .listed closingRanges, .listed initialQuoteRanges, .listed finalQuoteRanges,
    .listed otherPunctuationRanges]

def symbol : CharSet :=
  unionOf [.listed mathSymbolRanges, .listed currencyRanges, .listed modifierSymbolRanges,
    .listed otherSymbolRanges]

def lineSeparator : CharSet := .listed [(0x2028, 0x2028)]

def paragraphSeparator : CharSet := .listed [(0x2029, 0x2029)]

def separator : CharSet :=
  unionOf [.listed spaceSeparatorRanges, lineSeparator, paragraphSeparator]

def assigned : CharSet :=
  unionOf [letter, mark, number, punctuation, symbol, separator, .listed controlRanges,
    .listed formatRanges, .listed privateUseRanges]

/-- What is neither a letter nor a mark nor anything else that is seen. -/
def other : CharSet :=
  unionOf [.listed controlRanges, .listed formatRanges, .listed privateUseRanges, .compl assigned]

def categories : List Property := [
  ⟨["any"], .compl .empty⟩,
  ⟨["assigned"], assigned⟩,
  ⟨["ascii"], .range '\x00' '\x7f'⟩,
  ⟨["l", "letter"], letter⟩,
  ⟨["lc", "casedletter"], casedLetter⟩,
  ⟨["lu", "uppercaseletter"], .listed capitalLetterRanges⟩,
  ⟨["ll", "lowercaseletter"], .listed smallLetterRanges⟩,
  ⟨["lt", "titlecaseletter"], .listed titleLetterRanges⟩,
  ⟨["lm", "modifierletter"], .listed modifierLetterRanges⟩,
  ⟨["lo", "otherletter"], .listed otherLetterRanges⟩,
  ⟨["m", "mark", "combiningmark"], mark⟩,
  ⟨["mn", "nonspacingmark"], .listed nonspacingMarkRanges⟩,
  ⟨["mc", "spacingmark"], .listed spacingMarkRanges⟩,
  ⟨["me", "enclosingmark"], .listed enclosingMarkRanges⟩,
  ⟨["n", "number"], number⟩,
  ⟨["nd", "decimalnumber", "digit"], .listed decimalNumberRanges⟩,
  ⟨["nl", "letternumber"], .listed letterNumberRanges⟩,
  ⟨["no", "othernumber"], .listed otherNumberRanges⟩,
  ⟨["p", "punctuation", "punct"], punctuation⟩,
  ⟨["pc", "connectorpunctuation"], .listed connectorRanges⟩,
  ⟨["pd", "dashpunctuation"], .listed dashPunctuationRanges⟩,
  ⟨["ps", "openpunctuation"], .listed openingRanges⟩,
  ⟨["pe", "closepunctuation"], .listed closingRanges⟩,
  ⟨["pi", "initialpunctuation"], .listed initialQuoteRanges⟩,
  ⟨["pf", "finalpunctuation"], .listed finalQuoteRanges⟩,
  ⟨["po", "otherpunctuation"], .listed otherPunctuationRanges⟩,
  ⟨["s", "symbol"], symbol⟩,
  ⟨["sm", "mathsymbol"], .listed mathSymbolRanges⟩,
  ⟨["sc", "currencysymbol"], .listed currencyRanges⟩,
  ⟨["sk", "modifiersymbol"], .listed modifierSymbolRanges⟩,
  ⟨["so", "othersymbol"], .listed otherSymbolRanges⟩,
  ⟨["z", "separator"], separator⟩,
  ⟨["zs", "spaceseparator"], .listed spaceSeparatorRanges⟩,
  ⟨["zl", "lineseparator"], lineSeparator⟩,
  ⟨["zp", "paragraphseparator"], paragraphSeparator⟩,
  ⟨["c", "other"], other⟩,
  ⟨["cc", "control", "cntrl"], .listed controlRanges⟩,
  ⟨["cf", "format"], .listed formatRanges⟩,
  ⟨["cn", "unassigned"], .compl assigned⟩,
  ⟨["co", "privateuse"], .listed privateUseRanges⟩]

/-! ## Scripts -/

def scripts : List Property :=
  Text.scripts.map (fun s => ⟨s.names, .listed s.codes⟩) ++
    [⟨["zyyy", "common"], .listed commonRanges⟩,
      ⟨["zinh", "qaai", "inherited"], .listed inheritedRanges⟩]

/-- The characters that several scripts have in common, but not all. -/
def sharedByScripts : CharSet := unionOf (Text.scripts.map (fun s => .listed s.shared))

/-- The scripts with the characters that they share with others.  Only characters that are not
listed with any script are left as common or inherited ones. -/
def scriptExtensions : List Property :=
  Text.scripts.map (fun s => ⟨s.names, .union (.listed s.codes) (.listed s.shared)⟩) ++
    [⟨["zyyy", "common"], .diff (.listed commonRanges) sharedByScripts⟩,
      ⟨["zinh", "qaai", "inherited"], .diff (.listed inheritedRanges) sharedByScripts⟩]

/-! ## Editions -/

/-- The characters of each edition, with those of all editions before it. -/
def editionsFrom (before : CharSet) : List Edition → List Property
  | [] => []
  | e :: rest =>
    ⟨e.names, .union before (.listed e.added)⟩ ::
      editionsFrom (.union before (.listed e.added)) rest

/-! ## Derived properties -/

def lowercase : CharSet := .union (.listed smallLetterRanges) (.listed otherLowercaseRanges)

def uppercase : CharSet := .union (.listed capitalLetterRanges) (.listed otherUppercaseRanges)

def cased : CharSet := unionOf [lowercase, uppercase, .listed titleLetterRanges]

def alphabetic : CharSet :=
  unionOf [cased, .listed modifierLetterRanges, .listed otherLetterRanges,
    .listed letterNumberRanges, .listed otherAlphabeticRanges]

def changesWhenLowercased : CharSet :=
  .diff (.union uppercase (.listed titleLetterRanges)) (.listed fixedCapitalRanges)

def changesWhenUppercased : CharSet :=
  .union (.diff (.listed smallLetterRanges) (.listed fixedSmallRanges)) (.listed capitalizedRanges)

def changesWhenTitlecased : CharSet :=
  .diff (.union changesWhenUppercased (.listed titledCapitalRanges)) (.listed titledRanges)

def changesWhenCasefolded : CharSet :=
  .diff (.union changesWhenLowercased (.listed foldedSmallRanges)) (.listed unfoldedCapitalRanges)

def graphemeExtend : CharSet :=
  unionOf [.listed nonspacingMarkRanges, .listed enclosingMarkRanges,
    .listed otherGraphemeExtendRanges]

def graphemeBase : CharSet :=
  .diff assigned (unionOf [.listed controlRanges, .listed formatRanges, .listed privateUseRanges,
    lineSeparator, paragraphSeparator, graphemeExtend])

def patternSign : CharSet := .union (.listed patternSyntaxRanges) (.listed patternBlankRanges)

def idStart : CharSet :=
  .diff (unionOf [letter, .listed letterNumberRanges, .listed otherIdStartRanges]) patternSign

def idContinue : CharSet :=
  .diff (unionOf [idStart, .listed nonspacingMarkRanges, .listed spacingMarkRanges,
    .listed decimalNumberRanges, .listed connectorRanges, .listed otherIdContinueRanges])
    patternSign

/-- The characters that may not go on with a name once they are taken apart. -/
def splitMarks : CharSet :=
  .listed [(0x37A, 0x37A), (0x309B, 0x309C), (0xFC5E, 0xFC63), (0xFDFA, 0xFDFB), (0xFE70, 0xFE70),
    (0xFE72, 0xFE72), (0xFE74, 0xFE74), (0xFE76, 0xFE76), (0xFE78, 0xFE78), (0xFE7A, 0xFE7A),
    (0xFE7C, 0xFE7C), (0xFE7E, 0xFE7E)]

def ignorable : CharSet :=
  .diff (unionOf [.listed otherIgnorableRanges, .listed formatRanges,
    .listed variationSelectorRanges])
    (unionOf [.kind .space, .listed concatenationMarkRanges, .listed [(0xFFF9, 0xFFFB)],
      .listed [(0x13430, 0x1343F)]])

def ideographic : CharSet :=
  .union (.listed unifiedIdeographRanges) (.listed otherIdeographRanges)

def emojiModifier : CharSet := .listed [(0x1F3FB, 0x1F3FF)]

def regionalIndicator : CharSet := .listed [(0x1F1E6, 0x1F1FF)]

/-! ## Parts of clusters, words and sentences -/

def joiner : CharSet := .listed [(0x200D, 0x200D)]

def carriageReturn : Property := ⟨["cr"], .single '\r'⟩

def lineFeed : Property := ⟨["lf"], .single '\n'⟩

/-- The Hangul syllables without a final consonant. -/
def openSyllables : Ranges := (List.range 399).map (fun i => (0xAC00 + 28 * i, 0xAC00 + 28 * i))

def clusterBreaks : List Property := [
  carriageReturn, lineFeed,
  ⟨["cn", "control"], .diff
    (unionOf [lineSeparator, paragraphSeparator, .listed controlRanges, .listed formatRanges,
      .diff ignorable assigned])
    (unionOf [.single '\n', .single '\r', joiner, .listed concatenationMarkRanges,
      graphemeExtend])⟩,
  ⟨["ex", "extend"], .union graphemeExtend emojiModifier⟩,
  ⟨["l"], .listed [(0x1100, 0x115F), (0xA960, 0xA97C)]⟩,
  ⟨["v"], .listed [(0x1160, 0x11A7), (0xD7B0, 0xD7C6), (0x16D63, 0x16D63), (0x16D67, 0x16D6A)]⟩,
  ⟨["t"], .listed [(0x11A8, 0x11FF), (0xD7CB, 0xD7FB)]⟩,
  ⟨["lv"], .listed openSyllables⟩,
  ⟨["lvt"], .diff (.listed [(0xAC00, 0xD7A3)]) (.listed openSyllables)⟩,
  ⟨["pp", "prepend"], .union (.listed prependRanges) (.listed concatenationMarkRanges)⟩,
  ⟨["ri", "regionalindicator"], regionalIndicator⟩,
  ⟨["sm", "spacingmark"], .union
    (.diff (.listed spacingMarkRanges) (.union graphemeExtend (.listed standingMarkRanges)))
    (.listed [(0xE33, 0xE33), (0xEB3, 0xEB3)])⟩,
  ⟨["zwj"], joiner⟩]

def wordExtend : CharSet := unionOf [graphemeExtend, .listed spacingMarkRanges, emojiModifier]

/-- The set of a script, given by one of its names. -/
def scriptNamed (name : String) : CharSet := (find? scripts name).getD .empty

def wordKatakana : CharSet := .union (scriptNamed "katakana") (.listed kanaSignRanges)

def hebrewLetter : CharSet := .inter (scriptNamed "hebrew") (.listed otherLetterRanges)

/-- The signs in front of numbers, but for the Syriac abbreviation. -/
def numberSigns : CharSet := .diff (.listed concatenationMarkRanges) (.listed [(0x70F, 0x70F)])

def wordBreaks : List Property := [
  carriageReturn, lineFeed,
  ⟨["nl", "newline"], .listed [(0xB, 0xC), (0x85, 0x85), (0x2028, 0x2029)]⟩,
  ⟨["dq", "doublequote"], .listed [(0x22, 0x22)]⟩,
  ⟨["sq", "singlequote"], .listed [(0x27, 0x27)]⟩,
  ⟨["extend"], wordExtend⟩,
  ⟨["ri", "regionalindicator"], regionalIndicator⟩,
  ⟨["fo", "format"], .diff (.listed formatRanges)
    (unionOf [.listed [(0x200B, 0x200B)], joiner, graphemeExtend,
      .listed concatenationMarkRanges])⟩,
  ⟨["ka", "katakana"], wordKatakana⟩,
  ⟨["hl", "hebrewletter"], hebrewLetter⟩,
  ⟨["le", "aletter"], .diff (.union alphabetic (.listed letterLikeRanges))
    (unionOf [ideographic, wordKatakana, wordExtend, hebrewLetter, scriptNamed "hiragana",
      .listed unspacedLetterRanges])⟩,
  ⟨["ml", "midletter"], .listed midLetterRanges⟩,
  ⟨["mn", "midnum"], .listed midNumberRanges⟩,
  ⟨["mb", "midnumlet"], .listed midBothRanges⟩,
  ⟨["nu", "numeric"], unionOf [.listed decimalNumberRanges, numberSigns, .listed [(0x66B, 0x66B)],
    .listed [(0x19DA, 0x19DA)]]⟩,
  ⟨["ex", "extendnumlet"], .union (.listed connectorRanges) (.listed [(0x202F, 0x202F)])⟩,
  ⟨["wsegspace"], .diff (.listed spaceSeparatorRanges)
    (.listed [(0xA0, 0xA0), (0x2007, 0x2007), (0x202F, 0x202F)])⟩,
  ⟨["zwj"], joiner⟩]

def sentenceExtend : CharSet := unionOf [graphemeExtend, .listed spacingMarkRanges, joiner]

/-- The letters of Georgian that have a capital, and the capitals, which never start a sentence. -/
def georgianCased : CharSet :=
  .listed [(0x10D0, 0x10FA), (0x10FD, 0x10FF), (0x1C90, 0x1CBA), (0x1CBD, 0x1CBF)]

def sentenceLower : CharSet := .diff lowercase (.union georgianCased (.listed [(0x345, 0x345)]))

def sentenceUpper : CharSet := .diff (.union uppercase (.listed titleLetterRanges)) georgianCased

def sentenceBreaks : List Property := [
  carriageReturn, lineFeed,
  ⟨["se", "sep"], .listed [(0x85, 0x85), (0x2028, 0x2029)]⟩,
  ⟨["ex", "extend"], sentenceExtend⟩,
  ⟨["fo", "format"], .diff (.listed formatRanges) (unionOf [graphemeExtend, numberSigns, joiner])⟩,
  ⟨["sp"], .diff (.kind .space)
    (.listed [(0xA, 0xA), (0xD, 0xD), (0x85, 0x85), (0x2028, 0x2029)])⟩,
  ⟨["lo", "lower"], sentenceLower⟩,
  ⟨["up", "upper"], sentenceUpper⟩,
  ⟨["le", "oletter"], .diff (.union alphabetic (.listed [(0x5F3, 0x5F3)]))
    (unionOf [sentenceLower, sentenceUpper, sentenceExtend])⟩,
  ⟨["nu", "numeric"], unionOf [.listed decimalNumberRanges, numberSigns, .listed [(0x66B, 0x66C)],
    .listed [(0x19DA, 0x19DA)]]⟩,
  ⟨["at", "aterm"], .listed fullStopRanges⟩,
  ⟨["st", "sterm"], .diff (.listed sentenceTerminalRanges) (.listed fullStopRanges)⟩,
  ⟨["cl", "close"], .diff
    (unionOf [.listed openingRanges, .listed closingRanges, .listed initialQuoteRanges,
      .listed finalQuoteRanges, .listed quotationMarkRanges, .listed otherCloseRanges])
    (.listed [(0xFF02, 0xFF02), (0xFF07, 0xFF07)])⟩,
  ⟨["sc", "scontinue"], .listed sentenceContinueRanges⟩]

/-! ## Names -/

/-- The properties that a character has or has not. -/
def attributes : List Property := [
  ⟨["ahex", "asciihexdigit"], .listed asciiHexRanges⟩,
  ⟨["alpha", "alphabetic"], alphabetic⟩,
  ⟨["bidic", "bidicontrol"], .listed bidiControlRanges⟩,
  ⟨["bidim", "bidimirrored"], .listed bidiMirroredRanges⟩,
  ⟨["cased"], cased⟩,
  ⟨["ci", "caseignorable"], unionOf [.listed nonspacingMarkRanges, .listed enclosingMarkRanges,
    .listed formatRanges, .listed modifierLetterRanges, .listed modifierSymbolRanges,
    .listed midLetterRanges, .listed midBothRanges, .listed [(0x27, 0x27)]]⟩,
  ⟨["cwcf", "changeswhencasefolded"], changesWhenCasefolded⟩,
  ⟨["cwcm", "changeswhencasemapped"],
    unionOf [changesWhenLowercased, changesWhenUppercased, changesWhenTitlecased]⟩,
  ⟨["cwl", "changeswhenlowercased"], changesWhenLowercased⟩,
  ⟨["cwt", "changeswhentitlecased"], changesWhenTitlecased⟩,
  ⟨["cwu", "changeswhenuppercased"], changesWhenUppercased⟩,
  ⟨["dash"], .listed dashRanges⟩,
  ⟨["dep", "deprecated"], .listed deprecatedRanges⟩,
  ⟨["di", "defaultignorablecodepoint"], ignorable⟩,
  ⟨["dia", "diacritic"], .listed diacriticRanges⟩,
  ⟨["ebase", "emojimodifierbase"], .listed emojiBaseRanges⟩,
  ⟨["ecomp", "emojicomponent"], .listed emojiComponentRanges⟩,
  ⟨["emod", "emojimodifier"], emojiModifier⟩,
  ⟨["emoji"], .listed emojiRanges⟩,
  ⟨["epres", "emojipresentation"], .listed emojiPresentationRanges⟩,
  ⟨["ext", "extender"], .listed extenderRanges⟩,
  ⟨["extpict", "extendedpictographic"], .listed pictographRanges⟩,
  ⟨["grbase", "graphemebase"], graphemeBase⟩,
  ⟨["grext", "graphemeextend"], graphemeExtend⟩,
  ⟨["grlink", "graphemelink"], .listed graphemeLinkRanges⟩,
  ⟨["hex", "hexdigit"], .listed hexRanges⟩,
  ⟨["hyphen"], .listed hyphenRanges⟩,
  ⟨["idc", "idcontinue"], idContinue⟩,
  ⟨["idcompatmathcontinue"],
    .union (.listed compatMathStartRanges) (.listed compatMathExtraRanges)⟩,
  ⟨["idcompatmathstart"], .listed compatMathStartRanges⟩,
  ⟨["ideo", "ideographic"], ideographic⟩,
  ⟨["ids", "idstart"], idStart⟩,
  ⟨["idsb", "idsbinaryoperator"], .listed binaryOperatorRanges⟩,
  ⟨["idst", "idstrinaryoperator"], .listed [(0x2FF2, 0x2FF3)]⟩,
  ⟨["idsu", "idsunaryoperator"], .listed [(0x2FFE, 0x2FFF)]⟩,
  ⟨["joinc", "joincontrol"], .listed [(0x200C, 0x200D)]⟩,
  ⟨["loe", "logicalorderexception"], .listed logicalExceptionRanges⟩,
  ⟨["lower", "lowercase"], lowercase⟩,
  ⟨["math"], .union (.listed mathSymbolRanges) (.listed otherMathRanges)⟩,
  ⟨["mcm", "modifiercombiningmark"], .listed modifierCombiningMarkRanges⟩,
  ⟨["nchar", "noncharactercodepoint"], .listed nonCharacterRanges⟩,
  ⟨["oalpha", "otheralphabetic"], .listed otherAlphabeticRanges⟩,
  ⟨["odi", "otherdefaultignorablecodepoint"], .listed otherIgnorableRanges⟩,
  ⟨["ogrext", "othergraphemeextend"], .listed otherGraphemeExtendRanges⟩,
  ⟨["oidc", "otheridcontinue"], .listed otherIdContinueRanges⟩,
  ⟨["oids", "otheridstart"], .listed otherIdStartRanges⟩,
  ⟨["olower", "otherlowercase"], .listed otherLowercaseRanges⟩,
  ⟨["omath", "othermath"], .listed otherMathRanges⟩,
  ⟨["oupper", "otheruppercase"], .listed otherUppercaseRanges⟩,
  ⟨["patsyn", "patternsyntax"], .listed patternSyntaxRanges⟩,
  ⟨["patws", "patternwhitespace"], .listed patternBlankRanges⟩,
  ⟨["pcm", "prependedconcatenationmark"], .listed concatenationMarkRanges⟩,
  ⟨["qmark", "quotationmark"], .listed quotationMarkRanges⟩,
  ⟨["radical"], .listed radicalRanges⟩,
  ⟨["ri", "regionalindicator"], regionalIndicator⟩,
  ⟨["sd", "softdotted"], .listed softDottedRanges⟩,
  ⟨["space", "wspace", "whitespace"], .kind .space⟩,
  ⟨["sterm", "sentenceterminal"], .listed sentenceTerminalRanges⟩,
  ⟨["term", "terminalpunctuation"], .listed terminalPunctuationRanges⟩,
  ⟨["uideo", "unifiedideograph"], .listed unifiedIdeographRanges⟩,
  ⟨["upper", "uppercase"], uppercase⟩,
  ⟨["vs", "variationselector"], .listed variationSelectorRanges⟩,
  ⟨["xidc", "xidcontinue"], .diff idContinue splitMarks⟩,
  ⟨["xids", "xidstart"],
    .diff idStart (unionOf [splitMarks, .listed [(0xE33, 0xE33)], .listed [(0xEB3, 0xEB3)],
      .listed [(0xFF9E, 0xFF9F)]])⟩]

/-- The properties that have one of several values, by their names. -/
def valued : List (List String × List Property) := [
  (["gc", "generalcategory"], categories),
  (["sc", "script"], scripts),
  (["scx", "scriptextensions"], scriptExtensions),
  (["age"], editionsFrom .empty editions),
  (["gcb", "graphemeclusterbreak"], clusterBreaks),
  (["wb", "wordbreak"], wordBreaks),
  (["sb", "sentencebreak"], sentenceBreaks)]

def isNameLetter (c : Char) : Bool := decide (c.toNat < 128) && c != ' ' && c != '_' && c != '-'

/-- A name in small letters without separators. -/
def plainName (name : List Char) : String :=
  String.ofList ((name.filter isNameLetter).map Char.toLower)

/-- A name as the tables have it.  Where nothing but a `c` is left behind `is`, the whole is the
name of another property, which has no set. -/
def tableName (name : List Char) : String :=
  match name with
  | i :: s :: rest =>
    if i.toLower = 'i' ∧ s.toLower = 's' then
      if plainName rest = "c" then "isc" else plainName rest
    else plainName name
  | _ => plainName name

/-- The set of a name that stands alone. -/
def named? (name : List Char) : Option CharSet :=
  find? (attributes ++ categories ++ scripts) (tableName name)

/-- The set of the characters for which a property has a value. -/
def valued? (name value : List Char) : Option CharSet :=
  match valued.find? (·.1.contains (tableName name)) with
  | some (_, values) => find? values (tableName value)
  | none => none

/-- The parts of a text before and after the first occurrence of `sign`. -/
def cutAt? (sign : List Char) : List Char → Option (List Char × List Char)
  | [] => none
  | c :: cs =>
    match Text.afterStart sign (c :: cs) with
    | some rest => some ([], rest)
    | none => (cutAt? sign cs).map (fun (front, rest) => (c :: front, rest))

/-- The set that is described in braces, and whether its complement is meant. -/
def described? (text : List Char) : Option (CharSet × Bool) :=
  match cutAt? ['!', '='] text with
  | some (name, value) => (valued? name value).map (·, true)
  | none =>
    match (cutAt? [':'] text).or (cutAt? ['='] text) with
    | some (name, value) => (valued? name value).map (·, false)
    | none => (named? text).map (·, false)

end Property

end ScopeLint.Pattern
