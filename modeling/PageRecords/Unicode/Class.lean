import PageRecords.Unicode.CharSet
import PageRecords.Unicode.Category
import PageRecords.Unicode.Property
import PageRecords.Unicode.Script

/-!
# Named character classes

The sets that the database's names stand for. A name is compared without case,
blanks, hyphens and underscores.

Not the whole database is here: there are the general categories, the scripts and
the properties Alphabetic, Lowercase, Uppercase and White_Space. Any other name gives
no class, as a misspelt one does, so a pattern that asks for another property (Emoji
or XID_Start, say), for an age or for script extensions is refused.
-/

namespace PageRecords.Unicode.Class

open Category

/-- Decimal digits of every script. -/
def digit : CharSet := .ofRanges decimalNumber

def space : CharSet := .ofRanges Property.whiteSpace

/-- Letters, marks, decimal digits, connectors and what else is alphabetic, with
the two joiners. -/
def word : CharSet :=
  .ofRanges (uppercaseLetter ++ lowercaseLetter ++ titlecaseLetter ++ modifierLetter
    ++ otherLetter ++ letterNumber ++ Property.otherAlphabetic ++ nonspacingMark
    ++ spacingMark ++ enclosingMark ++ decimalNumber ++ connectorPunctuation
    ++ [(0x200c, 0x200d)])

def letter : CharSet :=
  .ofRanges (uppercaseLetter ++ lowercaseLetter ++ titlecaseLetter ++ modifierLetter
    ++ otherLetter)

def alphabetic : CharSet :=
  .ofRanges (letter.ranges ++ letterNumber ++ Property.otherAlphabetic)

def lowercase : CharSet := .ofRanges (lowercaseLetter ++ Property.otherLowercase)

def uppercase : CharSet := .ofRanges (uppercaseLetter ++ Property.otherUppercase)

def numeric : CharSet := .ofRanges (decimalNumber ++ letterNumber ++ otherNumber)

def mark : CharSet := .ofRanges (nonspacingMark ++ spacingMark ++ enclosingMark)

def punctuation : CharSet :=
  .ofRanges (connectorPunctuation ++ dashPunctuation ++ openPunctuation ++ closePunctuation
    ++ initialPunctuation ++ finalPunctuation ++ otherPunctuation)

def symbol : CharSet :=
  .ofRanges (mathSymbol ++ currencySymbol ++ modifierSymbol ++ otherSymbol)

def separator : CharSet :=
  .ofRanges (spaceSeparator ++ lineSeparator ++ paragraphSeparator)

def assigned : CharSet :=
  .ofRanges (letter.ranges ++ mark.ranges ++ numeric.ranges ++ punctuation.ranges
    ++ symbol.ranges ++ separator.ranges ++ control ++ format ++ privateUse ++ surrogate)

/-- The general categories and their groups under their names. -/
def categories : List (List String × CharSet) := [
  (["any"], .all), (["assigned"], assigned), (["ascii"], .range 0 0x7f),
  (["l", "letter"], letter), (["lc", "casedletter"],
    .ofRanges (uppercaseLetter ++ lowercaseLetter ++ titlecaseLetter)),
  (["lu", "uppercaseletter"], .ofRanges uppercaseLetter),
  (["ll", "lowercaseletter"], .ofRanges lowercaseLetter),
  (["lt", "titlecaseletter"], .ofRanges titlecaseLetter),
  (["lm", "modifierletter"], .ofRanges modifierLetter),
  (["lo", "otherletter"], .ofRanges otherLetter),
  (["m", "mark", "combiningmark"], mark),
  (["mn", "nonspacingmark"], .ofRanges nonspacingMark),
  (["mc", "spacingmark"], .ofRanges spacingMark),
  (["me", "enclosingmark"], .ofRanges enclosingMark),
  (["n", "number"], numeric),
  (["nd", "decimalnumber", "digit"], digit),
  (["nl", "letternumber"], .ofRanges letterNumber),
  (["no", "othernumber"], .ofRanges otherNumber),
  (["p", "punctuation", "punct"], punctuation),
  (["pc", "connectorpunctuation"], .ofRanges connectorPunctuation),
  (["pd", "dashpunctuation"], .ofRanges dashPunctuation),
  (["ps", "openpunctuation"], .ofRanges openPunctuation),
  (["pe", "closepunctuation"], .ofRanges closePunctuation),
  (["pi", "initialpunctuation"], .ofRanges initialPunctuation),
  (["pf", "finalpunctuation"], .ofRanges finalPunctuation),
  (["po", "otherpunctuation"], .ofRanges otherPunctuation),
  (["s", "symbol"], symbol),
  (["sm", "mathsymbol"], .ofRanges mathSymbol),
  (["sc", "currencysymbol"], .ofRanges currencySymbol),
  (["sk", "modifiersymbol"], .ofRanges modifierSymbol),
  (["so", "othersymbol"], .ofRanges otherSymbol),
  (["z", "separator"], separator),
  (["zs", "spaceseparator"], .ofRanges spaceSeparator),
  (["zl", "lineseparator"], .ofRanges lineSeparator),
  (["zp", "paragraphseparator"], .ofRanges paragraphSeparator),
  (["c", "other"], .ofRanges (letter.union (mark.union (numeric.union (punctuation.union
    (symbol.union separator))))).complement.ranges),
  (["cc", "control", "cntrl"], .ofRanges control),
  (["cf", "format"], .ofRanges format),
  (["co", "privateuse"], .ofRanges privateUse),
  (["cs", "surrogate"], .ofRanges surrogate),
  (["cn", "unassigned"], assigned.complement)]

/-- The properties that a character has or has not, as far as they are known here. -/
def properties : List (List String × CharSet) := [
  (["alpha", "alphabetic"], alphabetic),
  (["lower", "lowercase"], lowercase),
  (["upper", "uppercase"], uppercase),
  (["wspace", "whitespace", "space"], space)]

/-- Lower case, without separators and without a leading `is`. -/
def normalize (name : String) : String :=
  let clean (cs : List Char) : List Char :=
    (cs.filter fun c => c.toNat < 0x80 && !(c = ' ' || c = '_' || c = '-')).map Char.toLower
  match name.toList with
  | i :: s :: rest =>
    if i.toLower = 'i' ∧ s.toLower = 's' then
      match clean rest with
      | ['c'] => "isc"
      | cs => String.ofList cs
    else String.ofList (clean (i :: s :: rest))
  | cs => String.ofList (clean cs)

def find? (classes : List (List String × CharSet)) (name : String) : Option CharSet :=
  (classes.find? fun entry => entry.1.contains name).map (·.2)

def category? (name : String) : Option CharSet :=
  find? categories (normalize name)

def script? (name : String) : Option CharSet :=
  (Script.all.find? fun entry => entry.1.contains (normalize name)).map (.ofRanges ·.2)

/-- A property, a general category or a script of that name, in this order. -/
def named? (name : String) : Option CharSet :=
  (find? properties (normalize name)).or ((category? name).or (script? name))

/-- The class of a property with a value, for the two properties that have values
here. Ages, breaks and script extensions have none. -/
def valued? (property value : String) : Option CharSet :=
  match normalize property with
  | "gc" | "generalcategory" => category? value
  | "sc" | "script" => script? value
  | _ => none

end PageRecords.Unicode.Class
