import TextGrammar.Regex.CharSet
/-!
# Character properties by name

What stands between the braces of `\p`: a general category, a script or a yes-or-no property on
its own, or `property=value` for these, script extensions, ages and break properties. Case, blanks,
hyphens, underscores and a leading `is` do not count.
-/
namespace TextGrammar.Pattern

open Unicode

def looseName (name : List Char) : String :=
  let kept := name.filter fun c => c.toNat < 128 && c != ' ' && c != '_' && c != '-'
  let lower := kept.map Char.toLower
  match lower, name with
  | 'i' :: 's' :: rest, first :: second :: _ =>
    if first.toLower == 'i' && second.toLower == 's' && rest != ['c'] then String.ofList rest
    else String.ofList lower
  | _, _ => String.ofList lower

private def categoryNames : List (List Category × List String) := [
  ([.lu], ["lu", "uppercaseletter"]), ([.ll], ["ll", "lowercaseletter"]),
  ([.lt], ["lt", "titlecaseletter"]), ([.lm], ["lm", "modifierletter"]),
  ([.lo], ["lo", "otherletter"]), ([.lu, .ll, .lt], ["lc", "casedletter"]),
  ([.lu, .ll, .lt, .lm, .lo], ["l", "letter"]),
  ([.mn], ["mn", "nonspacingmark"]), ([.mc], ["mc", "spacingmark"]),
  ([.me], ["me", "enclosingmark"]), ([.mn, .mc, .me], ["m", "mark", "combiningmark"]),
  ([.nd], ["nd", "decimalnumber", "digit"]), ([.nl], ["nl", "letternumber"]),
  ([.no], ["no", "othernumber"]), ([.nd, .nl, .no], ["n", "number"]),
  ([.pc], ["pc", "connectorpunctuation"]), ([.pd], ["pd", "dashpunctuation"]),
  ([.ps], ["ps", "openpunctuation"]), ([.pe], ["pe", "closepunctuation"]),
  ([.pi], ["pi", "initialpunctuation"]), ([.pf], ["pf", "finalpunctuation"]),
  ([.po], ["po", "otherpunctuation"]),
  ([.pc, .pd, .ps, .pe, .pi, .pf, .po], ["p", "punctuation", "punct"]),
  ([.sm], ["sm", "mathsymbol"]), ([.sc], ["sc", "currencysymbol"]),
  ([.sk], ["sk", "modifiersymbol"]), ([.so], ["so", "othersymbol"]),
  ([.sm, .sc, .sk, .so], ["s", "symbol"]),
  ([.zs], ["zs", "spaceseparator"]), ([.zl], ["zl", "lineseparator"]),
  ([.zp], ["zp", "paragraphseparator"]), ([.zs, .zl, .zp], ["z", "separator"]),
  ([.cc], ["cc", "control", "cntrl"]), ([.cf], ["cf", "format"]),
  ([.cs], ["cs", "surrogate"]), ([.co], ["co", "privateuse"]),
  ([.cn], ["cn", "unassigned"]), ([.cc, .cf, .cs, .co, .cn], ["c", "other"])]

private def category? (name : String) : Option CharSet :=
  if name == "any" then some .all
  else if name == "ascii" then some (.range 0 127)
  else if name == "assigned" then some (.compl (.named (.anyOf [.cn])))
  else (categoryNames.find? (·.2.contains name)).map fun entry => .named (.anyOf entry.1)

private def scriptCode? (name : String) : Option String :=
  (Script.names.find? (·.any fun known => looseName known.toList == name)).bind List.head?

private def script? (name : String) : Option CharSet :=
  (scriptCode? name).map fun code => .named (.script code)

private def property? (properties : List Property) (name : String) : Option CharSet :=
  (Property.named? name properties).map fun property => .named (.property property)

/-- `V6_0` or `6.0`: all that this version or an earlier one gave a meaning. -/
private def age? (name : String) : Option CharSet :=
  let spells (version : String) : Bool :=
    name == version || name == "v" ++ String.ofList (version.toList.filter (· != '.'))
  (Age.versions.findIdx? spells).map fun index => .named (.assignedBy (index + 1))

private def beyond (set : NamedClass) (categories : List Category) : CharSet :=
  .diff (.named set) (.named (.anyOf categories))

private def binary? (name : String) : Option CharSet :=
  if ["alphabetic", "alpha"].contains name then some (.named .alphabetic)
  else if ["lowercase", "lower"].contains name then some (.named .lowercase)
  else if ["uppercase", "upper"].contains name then some (.named .uppercase)
  else if ["whitespace", "wspace", "space"].contains name then some (.named .whiteSpace)
  else if ["joincontrol", "joinc"].contains name then some (.named .joinControl)
  else if ["graphemeextend", "grext"].contains name then some (.named .graphemeExtend)
  else if ["otheralphabetic", "oalpha"].contains name then
    some (beyond .alphabetic [.lu, .ll, .lt, .lm, .lo, .nl])
  else if ["otherlowercase", "olower"].contains name then some (beyond .lowercase [.ll])
  else if ["otheruppercase", "oupper"].contains name then some (beyond .uppercase [.lu])
  else if ["othergraphemeextend", "ogrext"].contains name then
    some (beyond .graphemeExtend [.mn, .me])
  else if ["othermath", "omath"].contains name then
    (property? Property.binary "math").map fun math => .diff math (.named (.anyOf [.sm]))
  else property? Property.binary name

/-- A name alone: a yes-or-no property, a category or a script, in this order. -/
def propertySet? (name : List Char) : Option CharSet :=
  let name := looseName name
  (binary? name).or ((category? name).or (script? name))

def propertyValueSet? (property value : List Char) : Option CharSet :=
  let property := looseName property
  let value := looseName value
  if ["generalcategory", "gc"].contains property then category? value
  else if ["script", "sc"].contains property then script? value
  else if ["scriptextensions", "scx"].contains property then
    (scriptCode? value).map fun code => .named (.usedBy code)
  else if property == "age" then age? value
  else if ["graphemeclusterbreak", "gcb"].contains property then
    property? Property.graphemeBreak value
  else if ["wordbreak", "wb"].contains property then property? Property.wordBreak value
  else if ["sentencebreak", "sb"].contains property then property? Property.sentenceBreak value
  else none

private def splitAt? (mark : List Char) : List Char → Option (List Char × List Char)
  | [] => none
  | c :: rest =>
    if mark.isPrefixOf (c :: rest) then some ([], (c :: rest).drop mark.length)
    else (splitAt? mark rest).map fun (before, after) => (c :: before, after)

/-- The set named between braces, and whether `!=` asks for its complement. -/
def querySet? (query : List Char) : Option (CharSet × Bool) :=
  match splitAt? ['!', '='] query with
  | some (property, value) => (propertyValueSet? property value).map (·, true)
  | none =>
    match (splitAt? [':'] query).or (splitAt? ['='] query) with
    | some (property, value) => (propertyValueSet? property value).map (·, false)
    | none => (propertySet? query).map (·, false)

end TextGrammar.Pattern
