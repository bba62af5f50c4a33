import Slumber.Pattern.CharSet
import Slumber.Text.Words

/-!
# Properties of characters by name

Patterns name sets of characters by a property: a general category under its short or long name, a
script, or a property that a character has or has not. Names are compared loosely, without regard
to case, blanks, dashes and underscores. `CharSet.property?` reads what stands in `\p{…}`.
-/

namespace Slumber.Pattern.CharSet

open Slumber.Text

/-- The union of the general categories whose short names start with `letter`. -/
def categoriesWith (letter : Char) : CharSet :=
  unions <| (categories.filter fun (name, _) => name.toList.head? = some letter).map fun (_, t) =>
    .table t

/-- The separators: spaces, the line separator and the paragraph separator. -/
def separators : CharSet :=
  .union (.table categoryZs) (.range 0x2028 0x2029)

/-- The control characters. -/
def controls : CharSet :=
  .union (.range 0 0x1F) (.range 0x7F 0x9F)

/-- All characters that belong to a general category of letters, marks, numbers, punctuation,
symbols or separators. -/
def visible : CharSet :=
  .union separators (unions (categories.map fun (_, t) => .table t))

/-- All characters that stand for something. -/
def assigned : CharSet :=
  unions [visible, controls, .table categoryCf, .table categoryCo]

/-- A name of a property as it is compared: in lower case, without `is` in front, and without
blanks, dashes, underscores and what is beyond ASCII. What `is` makes of a lone `c` is another
name. -/
def looseName (name : List Char) : String :=
  let plain (cs : List Char) : List Char :=
    cs.filter fun c => c.toNat < 128 ∧ c ≠ ' ' ∧ c ≠ '-' ∧ c ≠ '_'
  match name.map asciiLower with
  | 'i' :: 's' :: cs => if plain cs = ['c'] then "isc" else String.ofList (plain cs)
  | cs => String.ofList (plain cs)

/-- The long names of general categories and their short ones. -/
def longNames : List (String × String) :=
  [("letter", "l"), ("casedletter", "lc"), ("uppercaseletter", "lu"), ("lowercaseletter", "ll"),
   ("titlecaseletter", "lt"), ("modifierletter", "lm"), ("otherletter", "lo"),
   ("mark", "m"), ("combiningmark", "m"), ("nonspacingmark", "mn"), ("spacingmark", "mc"),
   ("enclosingmark", "me"), ("number", "n"), ("decimalnumber", "nd"), ("digit", "nd"),
   ("letternumber", "nl"), ("othernumber", "no"), ("punctuation", "p"), ("punct", "p"),
   ("connectorpunctuation", "pc"), ("dashpunctuation", "pd"), ("openpunctuation", "ps"),
   ("closepunctuation", "pe"), ("initialpunctuation", "pi"), ("finalpunctuation", "pf"),
   ("otherpunctuation", "po"), ("symbol", "s"), ("mathsymbol", "sm"), ("currencysymbol", "sc"),
   ("modifiersymbol", "sk"), ("othersymbol", "so"), ("separator", "z"), ("spaceseparator", "zs"),
   ("lineseparator", "zl"), ("paragraphseparator", "zp"), ("other", "c"), ("control", "cc"),
   ("cntrl", "cc"), ("format", "cf"), ("unassigned", "cn"), ("privateuse", "co"),
   ("surrogate", "cs")]

/-- The set of a general category by its loose name. -/
def category? (name : String) : Option CharSet :=
  match ((longNames.find? fun (long, _) => long = name).map (·.2)).getD name with
  | "any" => some (.range 0 0x10FFFF)
  | "ascii" => some (.range 0 0x7F)
  | "assigned" => some assigned
  | "l" => some (categoriesWith 'L')
  | "lc" => some (unions [.table categoryLu, .table categoryLl, .table categoryLt])
  | "m" => some (categoriesWith 'M')
  | "n" => some (categoriesWith 'N')
  | "p" => some (categoriesWith 'P')
  | "s" => some (categoriesWith 'S')
  | "z" => some separators
  | "zl" => some (.range 0x2028 0x2028)
  | "zp" => some (.range 0x2029 0x2029)
  | "c" => some (.compl visible)
  | "cc" => some controls
  | "cf" => some (.table categoryCf)
  | "cn" => some (.compl assigned)
  | "co" => some (.table categoryCo)
  | "cs" => some .none
  | short => (categories.find? fun (n, _) => toAsciiLower n = short).map fun (_, t) => .table t

/-- The set of a script by its loose name. -/
def script? (name : String) : Option CharSet :=
  (scripts.find? fun (n, _) => n = name).map fun (_, t) => .table t

/-- The set of a property that characters have or have not, by its loose name. -/
def binaryProperty? : String → Option CharSet
  | "alphabetic" | "alpha" =>
    some (.union (ofRanges [('A', 'Z'), ('a', 'z')]) (.table alphabeticTable))
  | "uppercase" | "upper" => some (.union (.table categoryLu) (.table otherUppercase))
  | "lowercase" | "lower" => some (.union (.table categoryLl) (.table otherLowercase))
  | "whitespace" | "wspace" | "space" => some .space
  | _ => Option.none

/-- The name of a property and its value, apart by the first of the marks that occurs. -/
def cutProperty? (name : List Char) : Option (List Char × List Char) :=
  (cutAtText ['!', '='] name).or ((cutAt ':' name).or (cutAt '=' name))

/-- The set of a property: one that characters have or have not, a general category or a script, by
its name, or a general category or a script as the value of the property of that name. -/
def property? (name : List Char) : Option CharSet :=
  match cutProperty? name with
  | Option.none =>
    let name := looseName name
    (binaryProperty? name).or ((category? name).or (script? name))
  | some (key, value) =>
    match looseName key with
    | "gc" | "generalcategory" => category? (looseName value)
    | "sc" | "script" => script? (looseName value)
    | _ => Option.none

end Slumber.Pattern.CharSet
