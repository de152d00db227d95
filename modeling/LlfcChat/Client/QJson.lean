/-
How the client reads the members of a JSON object.

Qt has no errors here: a member that is missing or of another kind is read as
the default of the kind that is asked for.  The numbers that the server sends
have no fractions, and 64-bit ids travel as decimal texts.
-/
import LlfcChat.Chat.Request

namespace LlfcChat.QJson

/-- `toString` of a member. -/
def text (doc : Json) (key : String) : String := (stringField doc key).getD ""

/-- `toInt` of a member, with its default. -/
def int (doc : Json) (key : String) (fallback : Int) : Int :=
  ((doc.field key).bind parseJsonInt).getD fallback

/-- `toBool` of a member. -/
def bool (doc : Json) (key : String) : Bool :=
  match doc.field key with
  | some (.bool b) => b
  | _ => false

/-- `toArray` of a member. -/
def array (doc : Json) (key : String) : List Json :=
  match doc.field key with
  | some (.arr items) => items
  | _ => []

/-- `QString::toLongLong`, for the texts that the server makes of its numbers. -/
def toLongLong (s : String) : Int :=
  match s.toList with
  | '-' :: cs => if cs ≠ [] ∧ cs.all isDigit ∧ charsValue cs ≤ 2 ^ 63 then -charsValue cs else 0
  | cs => if cs ≠ [] ∧ cs.all isDigit ∧ charsValue cs < 2 ^ 63 then charsValue cs else 0

/-- `jsonInt64` of `tcpmgr.cpp` and `JsonId` of `chatsyncmanager.cpp`. -/
def id (doc : Json) (key : String) : Int := toLongLong (text doc key)

end LlfcChat.QJson
