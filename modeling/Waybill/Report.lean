/-!
Failure reports: a failure and the chain of what caused it, each link told by its own message.
A report is shown in two ways.  On one line the links are joined by `": "`, as log lines and
answers show them.  As a block the failure stands first and its causes follow under
`Caused by:`, each on its own indented line, numbered from zero when there are two or more; a
cause that spans lines keeps its later lines under its first.
-/
namespace Waybill

/-- A failure and the causes below it, the nearest first. -/
structure Report where
  message : String
  causes : List String := []
  deriving DecidableEq, Repr

namespace Report

/-- The failure of a step that failed because of `r`, told by `context`. -/
def within (context : String) (r : Report) : Report :=
  { message := context, causes := r.message :: r.causes }

/-- Every link of the chain, the failure first. -/
def links (r : Report) : List String := r.message :: r.causes

/-- The report on one line. -/
def line (r : Report) : String := ": ".intercalate r.links

/-- A cause as a block shows it: its first line behind `first`, its later lines behind
`later`, which is as wide. -/
def indented (first later : String) (cause : String) : String :=
  match cause.splitOn "\n" with
  | [] => first
  | head :: rest => first ++ head ++ String.join (rest.map fun l => "\n" ++ later ++ l)

/-- The label of the cause at `index` among numbered causes: the number right-aligned in
five places, then a colon and a space. -/
def numberLabel (index : Nat) : String :=
  let digits := toString index
  String.ofList (List.replicate (5 - digits.length) ' ') ++ digits ++ ": "

/-- The report as a block. -/
def block (r : Report) : String :=
  match r.causes with
  | [] => r.message
  | [cause] => r.message ++ "\n\nCaused by:\n" ++ indented "    " "    " cause
  | causes =>
    r.message ++ "\n\nCaused by:" ++ String.join (causes.zipIdx.map fun (cause, i) =>
      "\n" ++ indented (numberLabel i) "       " cause)

theorem line_within (context : String) (r : Report) :
    (r.within context).line = context ++ ": " ++ r.line := by
  simp [line, within, links, String.intercalate_cons_cons]

end Report

end Waybill
