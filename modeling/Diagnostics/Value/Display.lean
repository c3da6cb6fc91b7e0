import Diagnostics.Value.Basic
import Diagnostics.Number.Shortest
import Diagnostics.Text.Quoted

/-!
The text of a value in messages: texts in quotes, lists in brackets, objects in braces, and
capitalised names for the three constants. Values with very long integers have no text.
-/
namespace Diagnostics.Value

/-- How numbers without digits are spelt in messages. -/
def messageNumbers : Number.SpecialTexts := ⟨"nan".toList, "inf".toList⟩

mutual
def display : Value → Text
  | .null => "None".toList
  | .flag true => "True".toList
  | .flag false => "False".toList
  | .integer n => Number.integerText n
  | .real x => Number.floatText messageNumbers x
  | .text t => Text.quoted t
  | .list items => '[' :: displayItems items
  | .object members => '{' :: displayMembers members
  | .moment written => written
/-- The items of a list and the bracket that ends it. -/
def displayItems : List Value → Text
  | [] => [']']
  | value :: rest => display value ++ (match rest with
    | [] => [']']
    | _ :: _ => ',' :: ' ' :: displayItems rest)
/-- The members of an object and the brace that ends it. -/
def displayMembers : List (Text × Value) → Text
  | [] => ['}']
  | (key, value) :: rest => Text.quoted key ++ ':' :: ' ' :: display value ++ (match rest with
    | [] => ['}']
    | _ :: _ => ',' :: ' ' :: displayMembers rest)
end

mutual
/-- No integer of a value has more digits than may be written. -/
def isWritable : Value → Bool
  | .integer n => Number.isWritable n.natAbs
  | .list items => itemsAreWritable items
  | .object members => membersAreWritable members
  | _ => true
def itemsAreWritable : List Value → Bool
  | [] => true
  | value :: rest => isWritable value && itemsAreWritable rest
def membersAreWritable : List (Text × Value) → Bool
  | [] => true
  | (_, value) :: rest => isWritable value && membersAreWritable rest
end

end Diagnostics.Value
