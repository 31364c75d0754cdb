import Waybill.Wire.Cursor
import Waybill.Decimal.Read
/-!
Forms: the fixed sets of members a request body must supply.  A form is read from a JSON
object, member by member in the order they are written, or from a JSON array whose items
give the members in the form's order.  Members the form does not name are skipped; a member
given twice, or a required member left out, is a mismatch found when the object closes.
Each member holds text, a 64-bit whole number, a flag or a decimal amount, and may be
optional (absent or `null`) or have a default.
-/
namespace Waybill

namespace Wire

/-- What a member of a form holds. -/
inductive Slot where
  | text
  | integer
  | flag
  | amount

/-- A value read for a member. -/
inductive Entry where
  | text (s : String)
  | integer (n : Int)
  | flag (b : Bool)
  | amount (d : Decimal)
  | absent

/-- A member of a form: its name, what it holds, whether it may be absent or `null`, and the
value it takes when it is left out, if it has one. -/
structure Field where
  name : String
  slot : Slot
  optional : Bool := false
  fallback : Option Entry := none

/-- A form: the name it is known by in messages and its members in order. -/
structure Form where
  name : String
  fields : List Field

/-- What a decimal amount is said to be in messages. -/
def amountExpected : String := "a Decimal type representing a fixed-point number"

namespace Reader

/-- The problem of a mismatch placed where the reader stands, without throwing it. -/
def mismatchHere (text : String) : Reader Problem := do
  pure { kind := .mismatched, text, index := (← get).index }

/-- A problem one past the next byte, without throwing it. -/
def problemAhead (text : String) : Reader Problem := do
  let c ← get
  pure { kind := .malformed, text, index := if c.rest.isEmpty then c.index else c.index + 1 }

/-- Reads text. -/
def readText : Reader String := do
  match ← skipBlanks with
  | none => failAhead .malformed "EOF while parsing a value"
  | some b => if isByte b '"' then do advance; string else wrongType "a string"

/-- A number as a 64-bit signed whole number. -/
def asInteger (n : Number) : Reader Int :=
  match n with
  | .unsigned v =>
    if v < Nat.pow 2 63 then pure v
    else failHere .mismatched ("invalid value: " ++ n.describe ++ ", expected i64")
  | .negative v => pure (-(v : Int))
  | .float .. => failHere .mismatched ("invalid type: " ++ n.describe ++ ", expected i64")

/-- Reads a 64-bit signed whole number. -/
def readInteger : Reader Int := do
  match ← skipBlanks with
  | none => failAhead .malformed "EOF while parsing a value"
  | some b =>
    if isByte b '-' then do advance; asInteger (← number true)
    else if isDigitByte b then do asInteger (← number false)
    else wrongType "i64"

/-- Reads a flag. -/
def readFlag : Reader Bool := do
  match ← skipBlanks with
  | none => failAhead .malformed "EOF while parsing a value"
  | some b =>
    if isByte b 't' then do advance; expectIdent ['r', 'u', 'e']; pure true
    else if isByte b 'f' then do advance; expectIdent ['a', 'l', 's', 'e']; pure false
    else wrongType "a boolean"

/-- A number as a decimal amount: whole numbers exactly, floating-point values by their
shortest digits. -/
def asAmount (n : Number) : Reader Decimal :=
  let result := match n with
    | .unsigned v => Decimal.ofInt? v
    | .negative v => Decimal.ofInt? (-(v : Int))
    | .float neg v =>
      let (m, x) := Number.floatParts neg v
      Decimal.read? (Decimal.plainText neg m.natAbs x)
  match result with
  | some d => pure d
  | none => failHere .mismatched ("invalid value: " ++ n.describe ++ ", expected " ++ amountExpected)

/-- Steps past the end of an array that turned out not to fit, as far as a reader that
stops there goes: a closing bracket, or a comma and the blanks after it. -/
def passListEnd : Reader Unit := do
  match ← skipBlanks with
  | some b =>
    if isByte b ']' then advance
    else if isByte b ',' then do advance; let _ ← skipBlanks; pure ()
    else pure ()
  | none => pure ()

/-- Steps past the end of an object that turned out not to fit: a closing brace. -/
def passObjectEnd : Reader Unit := do
  match ← skipBlanks with
  | some b => if isByte b '}' then advance else pure ()
  | none => pure ()

/-- Reads a decimal amount: a number, or text in plain or scientific notation. -/
def readAmount : Reader Decimal := do
  let mismatch {α : Type} (found : String) : Reader α :=
    failHere .mismatched ("invalid type: " ++ found ++ ", expected " ++ amountExpected)
  match ← skipBlanks with
  | none => failAhead .malformed "EOF while parsing a value"
  | some b =>
    if isByte b 'n' then do advance; expectIdent ['u', 'l', 'l']; mismatch "null"
    else if isByte b 't' then do advance; expectIdent ['r', 'u', 'e']; mismatch "boolean `true`"
    else if isByte b 'f' then do
      advance; expectIdent ['a', 'l', 's', 'e']; mismatch "boolean `false`"
    else if isByte b '-' then do advance; asAmount (← number true)
    else if isDigitByte b then do asAmount (← number false)
    else if isByte b '"' then do
      advance
      let s ← string
      match Decimal.read? s <|> Decimal.readScientific? s with
      | some d => pure d
      | none =>
        failHere .mismatched ("invalid value: string " ++ quoted s ++ ", expected " ++ amountExpected)
    else if isByte b '[' then do advance; passListEnd; mismatch "sequence"
    else if isByte b '{' then do advance; passObjectEnd; mismatch "map"
    else failAhead .malformed "expected value"

/-- Reads the value of a member. -/
def readSlot : Slot → Reader Entry
  | .text => .text <$> readText
  | .integer => .integer <$> readInteger
  | .flag => .flag <$> readFlag
  | .amount => .amount <$> readAmount

/-- Reads the value of a member, `null` standing for absence when the member is optional. -/
def readField (f : Field) : Reader Entry := do
  if f.optional then
    match ← skipBlanks with
    | some b =>
      if isByte b 'n' then do advance; expectIdent ['u', 'l', 'l']; pure .absent
      else readSlot f.slot
    | none => readSlot f.slot
  else readSlot f.slot

/-- Moves to the next item of an array: `none` at its end, left unread. -/
def nextItem (first : Bool) : Reader (Option Unit) := do
  match ← skipBlanks with
  | none => failAhead .malformed "EOF while parsing a list"
  | some b =>
    if isByte b ']' then pure none
    else if isByte b ',' && !first then do
      advance
      match ← skipBlanks with
      | some c => if isByte c ']' then failAhead .malformed "trailing comma" else pure (some ())
      | none => failAhead .malformed "EOF while parsing a value"
    else if first then pure (some ())
    else failAhead .malformed "expected `,` or `]`"

/-- Moves to the next member of an object and reads its name: `none` at its end, left
unread. -/
def nextKey (first : Bool) : Reader (Option String) := do
  match ← skipBlanks with
  | none => failAhead .malformed "EOF while parsing an object"
  | some b =>
    if isByte b '}' then pure none
    else
      let start ← if isByte b ',' && !first then do advance; skipBlanks
        else if first then pure (some b)
        else failAhead .malformed "expected `,` or `\x7d`"
      match start with
      | some c =>
        if isByte c '"' then do advance; some <$> string
        else if isByte c '}' then failAhead .malformed "trailing comma"
        else failAhead .malformed "key must be a string"
      | none => failAhead .malformed "EOF while parsing a value"

/-- Reads the colon between a member's name and its value. -/
def colon : Reader Unit := do
  match ← skipBlanks with
  | none => failAhead .malformed "EOF while parsing an object"
  | some b => if isByte b ':' then advance else failAhead .malformed "expected `:`"

/-- The text of a count of items in messages. -/
def elementsText (n : Nat) : String :=
  toString n ++ (if n = 1 then " element" else " elements")

/-- Reads the items of an array as the members of a form, in order, after the opening
bracket.  The inner result is a mismatch that is placed once the array is closed. -/
def formItems (form : Form) :
    List Field → Nat → List (String × Entry) → Reader (Except String (List (String × Entry)))
  | [], _, acc => pure (.ok acc.reverse)
  | f :: rest, i, acc => do
    match ← nextItem (i = 0) with
    | none =>
      match f.fallback with
      | some v => formItems form rest (i + 1) ((f.name, v) :: acc)
      | none =>
        pure (.error ("invalid length " ++ toString i ++ ", expected struct " ++ form.name ++
          " with " ++ elementsText form.fields.length))
    | some () =>
      let v ← under (.item i) (readField f)
      formItems form rest (i + 1) ((f.name, v) :: acc)

/-- The members of a form once an object has closed: each one read, or its default, or
absence for an optional one; the first required member left out is a mismatch. -/
def settle (fields : List Field) (seen : List (String × Entry)) :
    Except String (List (String × Entry)) :=
  fields.mapM fun f =>
    match seen.find? (·.1 == f.name) with
    | some (_, v) => .ok (f.name, v)
    | none =>
      match f.fallback with
      | some v => .ok (f.name, v)
      | none => if f.optional then .ok (f.name, .absent) else .error ("missing field `" ++ f.name ++ "`")

/-- Reads the members of an object after its opening brace; `fuel` bounds the members.  The
inner result is a mismatch that is placed once the object is closed. -/
def formMembers (form : Form) :
    Nat → Bool → List (String × Entry) → Reader (Except String (List (String × Entry)))
  | 0, _, seen => pure (settle form.fields seen)
  | fuel + 1, first, seen => do
    match ← nextKey first with
    | none => pure (settle form.fields seen)
    | some key =>
      match form.fields.find? (·.name == key) with
      | some f =>
        if seen.any (·.1 == key) then pure (.error ("duplicate field `" ++ key ++ "`"))
        else do
          let v ← under (.member key) (do colon; readField f)
          formMembers form fuel false ((key, v) :: seen)
      | none => do
        under (.member key) (do colon; skipValue)
        formMembers form fuel false seen

/-- The end of an array read as a form, as a problem when it is not there. -/
def closeList : Reader (Option Problem) := do
  match ← skipBlanks with
  | none => some <$> problemAhead "EOF while parsing a list"
  | some b =>
    if isByte b ']' then do advance; pure none
    else if isByte b ',' then do
      advance
      match ← skipBlanks with
      | some c =>
        if isByte c ']' then some <$> problemAhead "trailing comma"
        else some <$> problemAhead "trailing characters"
      | none => some <$> problemAhead "trailing characters"
    else some <$> problemAhead "expected `,` or `]`"

/-- The end of an object read as a form, as a problem when it is not there. -/
def closeObject : Reader (Option Problem) := do
  match ← skipBlanks with
  | none => some <$> problemAhead "EOF while parsing an object"
  | some b =>
    if isByte b '}' then do advance; pure none
    else if isByte b ',' then some <$> problemAhead "trailing comma"
    else some <$> problemAhead "trailing characters"

/-- The outcome of a form once its array or object is closed: a mismatch found inside is
placed after the close, whatever the close found. -/
def finishForm {α : Type} (inner : Except String α) (close : Option Problem) : Reader α := do
  match inner with
  | .error text => throw (← mismatchHere text)
  | .ok v =>
    match close with
    | some p => throw p
    | none => pure v

/-- Reads a form from an object or an array. -/
def readForm (form : Form) : Reader (List (String × Entry)) := do
  match ← skipBlanks with
  | none => failAhead .malformed "EOF while parsing a value"
  | some b =>
    if isByte b '[' then do
      advance
      let inner ← formItems form form.fields 0 []
      finishForm inner (← closeList)
    else if isByte b '{' then do
      advance
      let inner ← formMembers form ((← get).rest.length + 1) true []
      finishForm inner (← closeObject)
    else wrongType ("struct " ++ form.name)

/-- Nothing but blanks may follow the value of a body. -/
def atEnd : Reader Unit := do
  match ← skipBlanks with
  | none => pure ()
  | some _ => failAhead .malformed "trailing characters"

end Reader

/-- Reads a form from the bytes of a body. -/
def Form.read (form : Form) (body : List UInt8) : Except Problem (List (String × Entry)) :=
  (do let r ← Reader.readForm form; Reader.atEnd; pure r).run' (Cursor.start body)

/-- The text of an entry. -/
def Entry.text? : Entry → Option String
  | .text s => some s
  | _ => none

/-- The whole number of an entry. -/
def Entry.integer? : Entry → Option Int
  | .integer n => some n
  | _ => none

/-- The flag of an entry. -/
def Entry.flag? : Entry → Option Bool
  | .flag b => some b
  | _ => none

/-- The amount of an entry. -/
def Entry.amount? : Entry → Option Decimal
  | .amount d => some d
  | _ => none

/-- The entry read for a member. -/
def entryOf (entries : List (String × Entry)) (name : String) : Entry :=
  ((entries.find? (·.1 == name)).map Prod.snd).getD .absent

end Wire

end Waybill
