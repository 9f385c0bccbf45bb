import FacetSearch.Character.Blank

/-!
# Licenses

The license of a model is an expression that names one license or a choice of
several, as in `MIT OR Apache-2.0`.  Blank text means that there is none.  What a
license permits and what it asks for in return is known for some of them.

The licensee takes one of the choices, so a choice permits what any known
alternative permits, and asks for what every known alternative asks for.
`licenseTags` turns this into tags.
-/

namespace FacetSearch.Catalogue

/-! ## Known licenses -/

/-- What a license may permit. -/
inductive Permission where
  | commercialUse
  | modifications
  | privateUse
  | patentUse
deriving DecidableEq, Repr

/-- What a license may ask for in return. -/
inductive Requirement where
  | includeCopyright
  | discloseSource
  | sameLicense
  | stateChanges
deriving DecidableEq, Repr

/-- A license with what it permits and what it asks for. -/
structure License where
  name : String
  permissions : List Permission
  requirements : List Requirement
deriving DecidableEq, Repr

/-- The known licenses by their ids, which are case-sensitive. -/
def knownLicenses : List (String × License) :=
  [("Apache-2.0",
      ⟨"Apache License 2.0", [.commercialUse, .modifications, .privateUse, .patentUse],
        [.includeCopyright, .stateChanges]⟩),
   ("BSD-3-Clause",
      ⟨"BSD 3-Clause \"New\" or \"Revised\" License",
        [.commercialUse, .modifications, .privateUse], [.includeCopyright]⟩),
   ("CC-BY-4.0",
      ⟨"CC BY 4.0", [.commercialUse, .modifications, .privateUse],
        [.includeCopyright, .stateChanges]⟩),
   ("CC-BY-SA-4.0",
      ⟨"CC BY-SA 4.0", [.commercialUse, .modifications, .privateUse],
        [.includeCopyright, .sameLicense, .stateChanges]⟩),
   ("CC-BY-NC-4.0",
      ⟨"CC BY-NC 4.0", [.modifications, .privateUse], [.includeCopyright, .stateChanges]⟩),
   ("CC-BY-NC-SA-4.0",
      ⟨"CC BY-NC-SA 4.0", [.modifications, .privateUse],
        [.includeCopyright, .sameLicense, .stateChanges]⟩),
   ("GPL-3.0-only",
      ⟨"GNU General Public License v3.0 only",
        [.commercialUse, .modifications, .privateUse, .patentUse],
        [.includeCopyright, .discloseSource, .sameLicense, .stateChanges]⟩),
   ("MIT",
      ⟨"MIT License", [.commercialUse, .modifications, .privateUse], [.includeCopyright]⟩),
   ("Unlicense",
      ⟨"The Unlicense", [.commercialUse, .modifications, .privateUse], []⟩),
   ("WTFPL",
      ⟨"Do What The F*ck You Want To Public License",
        [.commercialUse, .modifications, .privateUse], []⟩)]

/-- The license with an id, if it is known. -/
def knownLicense? (id : String) : Option License :=
  knownLicenses.lookup id

/-! ## License expressions -/

/-- Whether a character is `o` or `O`. -/
def isLetterO (c : Char) : Bool :=
  c == 'o' || c == 'O'

/-- Whether a character is `r` or `R`. -/
def isLetterR (c : Char) : Bool :=
  c == 'r' || c == 'R'

/-- What follows a connector at the start of a text, if there is one: blanks,
the word `or` in any case, and blanks again. -/
def afterConnector? : List Char → Option (List Char)
  | [] => none
  | c :: rest =>
      if isBlank c then
        match rest.dropWhile isBlank with
        | o :: r :: blank :: after =>
            if isLetterO o && isLetterR r && isBlank blank then some (after.dropWhile isBlank)
            else none
        | _ => none
      else none

/-- What follows a connector is shorter than the text with the connector. -/
theorem length_le_of_afterConnector? {c : Char} {rest after : List Char}
    (hconnector : afterConnector? (c :: rest) = some after) : after.length ≤ rest.length := by
  simp only [afterConnector?] at hconnector
  split at hconnector
  case isFalse => simp at hconnector
  case isTrue =>
    split at hconnector
    case h_2 => simp at hconnector
    case h_1 o r blank tail hrest =>
      split at hconnector
      case isFalse => simp at hconnector
      case isTrue =>
        cases hconnector
        have hdrop := (List.dropWhile_suffix isBlank (l := rest)).length_le
        have htail := (List.dropWhile_suffix isBlank (l := tail)).length_le
        simp only [hrest, List.length_cons] at hdrop
        omega

/-- The alternatives of an expression, when `part`, in reverse, has been read of
the first of them and `cs` is still to come. -/
def alternativesAfter (part : List Char) : (cs : List Char) → List (List Char)
  | [] => [part.reverse]
  | c :: rest =>
      match hconnector : afterConnector? (c :: rest) with
      | some after =>
          have : after.length ≤ rest.length := length_le_of_afterConnector? hconnector
          part.reverse :: alternativesAfter [] after
      | none => alternativesAfter (c :: part) rest
termination_by cs => cs.length

/-- A text without the blanks at its ends. -/
def trimBlanks (cs : List Char) : List Char :=
  ((cs.dropWhile isBlank).reverse.dropWhile isBlank).reverse

/-- The alternatives of an expression, in order.  A blank expression has none. -/
def alternativeChars (expression : List Char) : List (List Char) :=
  match trimBlanks expression with
  | [] => []
  | cs => alternativesAfter [] cs

/-- The license ids that an expression offers as alternatives, in order. -/
def alternatives (expression : String) : List String :=
  (alternativeChars expression.toList).map String.ofList

/-! ## License tags -/

/-- The tags of a choice between licenses. -/
def choiceTags (known : List License) : List String :=
  let permits (permission : Permission) := known.any (permission ∈ ·.permissions)
  let requires (requirement : Requirement) := known.all (requirement ∈ ·.requirements)
  if known = [] then []
  else
    (if permits .commercialUse then ["license:commercial"] else [])
      ++ (if permits .modifications then ["license:modifications"] else [])
      ++ (if requires .includeCopyright then ["license:by"] else [])
      ++ (if requires .sameLicense then ["license:sa"] else [])

/-- The tags of a license expression. -/
def licenseTags (license : Option String) : List String :=
  match alternatives (license.getD "") with
  | [] => ["license:no-license"]
  | ids =>
      (if ids.all fun id => (knownLicense? id).isSome then [] else ["license:unknown"])
        ++ choiceTags (ids.filterMap knownLicense?)

end FacetSearch.Catalogue
