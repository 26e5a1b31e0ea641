import ChatBot.Assoc
import ChatBot.Decimal.Written
import ChatBot.Text.Quoted

/-!
JSON documents as values. An object lists its members in the order in which their names first appeared.
-/
set_option autoImplicit false

namespace ChatBot

inductive Json where
  | null
  | bool (b : Bool)
  | int (n : Int)
  | float (x : Float)
  | string (t : Text)
  | array (items : List Json)
  | object (members : List (Text × Json))

namespace Json

/-- The kinds of values, by the names that messages give them. -/
def kindName : Json → Text
  | null => "NoneType"
  | bool _ => "bool"
  | int _ => "int"
  | float _ => "float"
  | string _ => "str"
  | array _ => "list"
  | object _ => "dict"

/-- The member of an object with the given name. -/
def member? : List (Text × Json) → Text → Option Json
  | [], _ => none
  | (name, value) :: members, wanted => if name = wanted then some value else member? members wanted

/-! ## Parts -/

/-- The members of an object; no other value has any. -/
def members : Json → List (Text × Json)
  | object ms => ms
  | _ => []

/-- The items of an array; no other value has any. -/
def items : Json → List Json
  | array vs => vs
  | _ => []

def text? : Json → Option Text
  | string t => some t
  | _ => none

/-- Whether a value says anything: nothing, zero, and whatever is empty do not. -/
def isGiven : Json → Bool
  | null => false
  | bool b => b
  | int n => n != 0
  | float x => !(x == 0.0)
  | string t => !t.isEmpty
  | array vs => !vs.isEmpty
  | object ms => !ms.isEmpty

/-! ## Values in chat -/

mutual

/-- A value written out inside another one; text is quoted. -/
def quoted : Json → Text
  | null => "None"
  | bool b => if b then "True" else "False"
  | int n => Text.ofInt n
  | float x => Decimal.write x
  | string t => Text.quote t
  | array items => '[' :: quotedItems items ++ [']']
  | object members => '\x7b' :: quotedMembers members ++ ['\x7d']

def quotedItems : List Json → Text
  | [] => []
  | [v] => quoted v
  | v :: w :: vs => quoted v ++ ", " ++ quotedItems (w :: vs)

def quotedMembers : List (Text × Json) → Text
  | [] => []
  | [(name, v)] => Text.quote name ++ ": " ++ quoted v
  | (name, v) :: m :: ms => Text.quote name ++ ": " ++ quoted v ++ ", " ++ quotedMembers (m :: ms)

end

/-- A value as it is said in chat: text as it is, any other value written out. -/
def spoken : Json → Text
  | string t => t
  | v => quoted v

end Json
end ChatBot
