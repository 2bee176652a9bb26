/-
Properties of characters by name.  Case, spaces, hyphens, low lines and a leading "is" make no
difference in a name.
-/
import GrammarText.Regex.Error
import GrammarText.Unicode.Age
import GrammarText.Unicode.Break
import GrammarText.Unicode.Script

namespace GrammarText
namespace Regex

open Text (CharSet)
open Unicode

namespace Property

/-- The other properties, by which no set is formed. -/
def others : List String := String.splitOn (
    "bc bidiclass bidimirroringglyph bidipairedbracket bidipairedbrackettype blk block bmg bpb bpt "
    ++ "canonicalcombiningclass casefolding ccc ce cf changeswhennfkccasefolded "
    ++ "cjkaccountingnumeric cjkcompatibilityvariant cjkiicore cjkirggsource cjkirghsource "
    ++ "cjkirgjsource cjkirgkpsource cjkirgksource cjkirgmsource cjkirgssource cjkirgtsource "
    ++ "cjkirguksource cjkirgusource cjkirgvsource cjkothernumeric cjkprimarynumeric cjkrsunicode "
    ++ "compex compositionexclusion cwkcf decompositionmapping decompositiontype dm dt ea "
    ++ "eastasianwidth equideo equivalentunifiedideograph expandsonnfc expandsonnfd expandsonnfkc "
    ++ "expandsonnfkd fcnfkc fcnfkcclosure fullcompositionexclusion hangulsyllabletype hst incb "
    ++ "indicconjunctbreak indicpositionalcategory indicsyllabiccategory inpc insc isc "
    ++ "jamoshortname jg joininggroup joiningtype jsn jt kaccountingnumeric kcompatibilityvariant "
    ++ "kehcat kehdesc kehhg kehifao kehjsesh kehnomirror kehnorotate kiicore kirggsource "
    ++ "kirghsource kirgjsource kirgkpsource kirgksource kirgmsource kirgssource kirgtsource "
    ++ "kirguksource kirgusource kirgvsource kothernumeric kprimarynumeric krsunicode lb lc "
    ++ "linebreak lowercasemapping na na1 name namealias nfcqc nfcquickcheck nfdqc nfdquickcheck "
    ++ "nfkccasefold nfkccf nfkcqc nfkcquickcheck nfkcscf nfkcsimplecasefold nfkdqc nfkdquickcheck "
    ++ "nt numerictype numericvalue nv ocomment scf sfc simplecasefolding simplelowercasemapping "
    ++ "simpletitlecasemapping simpleuppercasemapping slc stc suc tc titlecasemapping uc "
    ++ "unicode1name unicoderadicalstroke uppercasemapping urs verticalorientation vo xonfc xonfd "
    ++ "xonfkc xonfkd") " "

/-- The form of a name in which what makes no difference is gone. -/
def normalize (name : List Char) : String :=
  let isIs : Bool :=
    match name with
    | i :: s :: _ => (i == 'i' || i == 'I') && (s == 's' || s == 'S')
    | _ => false
  let kept := (if isIs then name.drop 2 else name).filter fun c =>
    c.toNat < 128 && c != ' ' && c != '_' && c != '-'
  let lower := kept.map Char.toLower
  -- This is a name of its own and not "c" behind "is".
  if isIs && lower == ['c'] then "isc" else String.ofList lower

/-- The set of a value, if there is one. -/
def valueSet (set? : Option CharSet) : Except Fault CharSet :=
  match set? with
  | some set => .ok set
  | none => .error .propertyValueNotFound

/-- The set of a name alone: of a property that characters have or lack, of a general category or
of a script. -/
def ofName (name : List Char) : Except Fault CharSet :=
  let key := normalize name
  match CharSet.named? Flag.all key <|> CharSet.named? Category.all key
      <|> (Script.find? key).map Script.own with
  | some set => .ok set
  | none =>
      if (Category.surrogates ++ Script.unused).contains key then .error .propertyValueNotFound
      else .error .propertyNotFound

/-- The set of a property and a value. -/
def ofValue (name value : List Char) : Except Fault CharSet :=
  let key := normalize name
  let wanted := normalize value
  if key == "gc" || key == "generalcategory" then valueSet (CharSet.named? Category.all wanted)
  else if key == "sc" || key == "script" then valueSet ((Script.find? wanted).map Script.own)
  else if key == "scx" || key == "scriptextensions" then
    valueSet ((Script.find? wanted).map Script.written)
  else if key == "age" then valueSet (Age.find? wanted)
  else if key == "gcb" || key == "graphemeclusterbreak" then
    valueSet (CharSet.named? Break.grapheme wanted)
  else if key == "wb" || key == "wordbreak" then valueSet (CharSet.named? Break.word wanted)
  else if key == "sb" || key == "sentencebreak" then
    valueSet (CharSet.named? Break.sentence wanted)
  else if (CharSet.named? Flag.all key).isSome || others.contains key then
    .error .propertyValueNotFound
  else .error .propertyNotFound

/-- The property that a pattern asks for. -/
inductive Query where
  | named (name : List Char)
  | valued (name value : List Char)
  deriving Repr, DecidableEq

namespace Query

/-- Splits a text at the first place where another stands. -/
def splitAt? (separator : List Char) : List Char → Option (List Char × List Char)
  | [] => none
  | c :: rest =>
      if separator.isPrefixOf (c :: rest) then some ([], (c :: rest).drop separator.length)
      else (splitAt? separator rest).map fun (front, back) => (c :: front, back)

/-- Reads what stands in the braces of a query.  An unequal sign is taken for an equals sign. -/
def ofBraces (text : List Char) : Query :=
  match splitAt? ['!', '='] text with
  | some (name, value) => valued name value
  | none =>
      match splitAt? [':'] text with
      | some (name, value) => valued name value
      | none =>
          match splitAt? ['='] text with
          | some (name, value) => valued name value
          | none => named text

def set : Query → Except Fault CharSet
  | named name => ofName name
  | valued name value => ofValue name value

end Query
end Property
end Regex
end GrammarText
