import Waybill.Http.Message
/-!
Media types as a content-type header names them: `type/subtype` and parameters.  The type
and the subtype are tokens, with no blank around the slash or before the first `;`.  A subtype
may end in a suffix after its last `+` that is not its first character.  Each parameter is a
token name, an `=` and a value that is a token, possibly empty at the very end, or a quoted
text of at least one character; blanks may stand before a name and after a quoted value.
Names are compared in lower case.  A body is JSON when its type is `application` and its
subtype is `json` or has the suffix `json`.
-/
namespace Waybill

namespace Http

/-- The characters of a token. -/
def isTokenChar (c : Char) : Bool :=
  c.isAlphanum || "!#$%&'*+-.^_`|~".toList.contains c

/-- The characters a quoted parameter value may hold. -/
def isQuotedChar (c : Char) : Bool := c == '\t' || (31 < c.toNat && c.toNat != 127)

/-- Where a reader of parameters stands. -/
inductive ParamPhase where
  /-- Before a name, where blanks may stand. -/
  | beforeName
  /-- Inside a name. -/
  | name
  /-- Just after the `=`. -/
  | beforeValue
  /-- Inside a token value. -/
  | token
  /-- Inside a quoted value, which so far is empty or not. -/
  | quoted (empty : Bool)
  /-- After the closing quote of a value. -/
  | afterQuote

/-- Whether the text after a media type's first `;` is a list of parameters. -/
def paramsParse : ParamPhase → List Char → Bool
  | .beforeName, [] => true
  | .beforeName, c :: rest =>
    if c == ' ' then paramsParse .beforeName rest
    else if isTokenChar c then paramsParse .name rest
    else false
  | .name, [] => false
  | .name, c :: rest =>
    if isTokenChar c then paramsParse .name rest
    else if c == '=' then paramsParse .beforeValue rest
    else false
  | .beforeValue, [] => true
  | .beforeValue, c :: rest =>
    if c == '"' then paramsParse (.quoted true) rest
    else if isTokenChar c then paramsParse .token rest
    else false
  | .token, [] => true
  | .token, c :: rest =>
    if isTokenChar c then paramsParse .token rest
    else if c == ';' then paramsParse .beforeName rest
    else false
  | .quoted _, [] => false
  | .quoted empty, c :: rest =>
    if c == '"' && !empty then paramsParse .afterQuote rest
    else if isQuotedChar c then paramsParse (.quoted false) rest
    else false
  | .afterQuote, [] => true
  | .afterQuote, c :: rest =>
    if c == ';' then paramsParse .beforeName rest
    else if c == ' ' then paramsParse .afterQuote rest
    else false

/-- The subtype's characters up to its end, the offset of its last `+` past the first
character, and the rest from the `;` that ends it; `none` for a character out of place. -/
def subtypeRun : List Char → List Char → Option Nat → Option (List Char × Option Nat × List Char)
  | [], acc, plus => some (acc.reverse, plus, [])
  | c :: rest, acc, plus =>
    if c == '+' && !acc.isEmpty then subtypeRun rest (c :: acc) (some acc.length)
    else if c == ';' && !acc.isEmpty then some (acc.reverse, plus, c :: rest)
    else if isTokenChar c then subtypeRun rest (c :: acc) plus
    else none

/-- A media type's type, subtype and suffix, in lower case, when the text is one. -/
def mediaType? (value : String) : Option (String × String × Option String) :=
  let cs := value.toList
  let kind := cs.takeWhile isTokenChar
  match cs.drop kind.length with
  | '/' :: rest =>
    if kind.isEmpty then none
    else
      match subtypeRun rest [] none with
      | none => none
      | some (sub, plus, tail) =>
        let paramsOk := match tail with
          | _ :: params => paramsParse .beforeName params
          | [] => true
        if !paramsOk then none
        else
          let lower := fun (xs : List Char) => lowerText (String.ofList xs)
          match plus with
          | some p => some (lower kind, lower (sub.take p), some (lower (sub.drop (p + 1))))
          | none => some (lower kind, lower sub, none)
  | _ => none

/-- Whether a content type names JSON: the type `application` with the subtype `json` or
the suffix `json`. -/
def isJsonMediaType (value : String) : Bool :=
  match mediaType? value with
  | some (kind, sub, suffix) => kind == "application" && (sub == "json" || suffix == some "json")
  | none => false

end Http

end Waybill
