/-
# Graft.Json.Basic -- values of the data format

A value is null, a truth value, a number, a text, an array or an object.  An object keeps its members in
the order of their first appearance, each name once, with the value that was given last.  A text whose
escapes leave half of a surrogate pair is kept apart, since it is no sequence of characters; the replacement
character stands for such a half.
-/
import Graft.Decimal.Shortest
import Graft.Text.Quoted

namespace Graft

set_option autoImplicit false

inductive Json where
  | null
  | bool (b : Bool)
  | int (n : Int)
  | real (negative : Bool) (value : Decimal.Scientific)
  | infinity (negative : Bool)
  | notANumber
  | text (t : Text)
  | brokenText (mended : Text)
  | array (items : List Json)
  | object (members : List (Text × Json))

namespace Json

/-- The value of a member of an object. -/
def member? (name : Text) : Json → Option Json
  | .object members => members.lookup name
  | _ => none

/-- The characters of a text, be it broken or not. -/
def characters? : Json → Option Text
  | .text t => some t
  | .brokenText mended => some mended
  | _ => none

/-- Gives a member a value; a member that is there keeps its place. -/
def setMember (name : Text) (value : Json) : List (Text × Json) → List (Text × Json)
  | [] => [(name, value)]
  | (n, v) :: rest => if n = name then (n, value) :: rest else (n, v) :: setMember name value rest

/-- A number with a fraction or an exponent, as it is shown. -/
def shownReal (negative : Bool) (value : Decimal.Scientific) : Text :=
  (if negative then ['-'] else []) ++
    match value.nearest? with
    | none => "inf".toList
    | some b => Decimal.write (Decimal.shortest b)

mutual

/-- The value as it is shown in messages. -/
def shown : Json → Text
  | .null => "None".toList
  | .bool true => "True".toList
  | .bool false => "False".toList
  | .int n => (toString n).toList
  | .real negative value => shownReal negative value
  | .infinity negative => (if negative then "-inf" else "inf").toList
  | .notANumber => "nan".toList
  | .text t => Text.quoted t
  | .brokenText _ => []
  | .array items => '[' :: shownItems items ++ [']']
  | .object members => '\x7b' :: shownMembers members ++ ['\x7d']

def shownItems : List Json → Text
  | [] => []
  | [v] => v.shown
  | v :: rest => v.shown ++ ", ".toList ++ shownItems rest

def shownMembers : List (Text × Json) → Text
  | [] => []
  | [(n, v)] => Text.quoted n ++ ": ".toList ++ v.shown
  | (n, v) :: rest => Text.quoted n ++ ": ".toList ++ v.shown ++ ", ".toList ++ shownMembers rest

end

end Json

end Graft
