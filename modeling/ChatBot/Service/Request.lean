import ChatBot.World

/-!
Asking a service for JSON. An answer with a status of the four or five hundreds is a failure, and so is a body that is no
JSON.
-/
set_option autoImplicit false

namespace ChatBot.Service

/-- The name under which the bot makes requests. -/
def agentHeader : List (Text × Text) := [("User-Agent", "shaken/0.1")]

/-- How long to wait for a reply when nothing else is said. -/
def standardTimeout : Scalar := .float 10.0

/-- The text of a failed status. -/
def statusMessage (status : Int) (side : Text) (reason : Option Text) (url : Text) : Text :=
  Text.ofInt status ++ ' ' :: side ++ " Error: " ++ reason.getD "None" ++ " for url: " ++ url

/-- What a reply means: a document or a failure. -/
def documentOf (runtime : Runtime) (url : Text) : Reply → Except Fault Json
  | .failure fault => .error (.during .exchange fault)
  | .answer status reason body =>
    if 400 ≤ status && status < 500 then .error (.during .status (.request .status (statusMessage status "Client" reason url)))
    else if 500 ≤ status && status < 600 then .error (.during .status (.request .status (statusMessage status "Server" reason url)))
    else match Json.read runtime body with
      | .ok document => .ok document
      | .error failure =>
        .error (.during .document ((Fault.ofLimit? failure).getD (.request .undecodable (failure.message body))))

variable {τ : Type}

/-- What the next reply means. -/
def nextDocument (url : Text) (w : World τ) : Except Fault Json × World τ :=
  let (reply, next) := w.nextReply
  (documentOf w.runtime url reply, next)

/-- Asks for the document at an address, sending `body` along. -/
def getJson (url : Text) (body : Json) (timeout : Scalar) : Program (World τ) Json := do
  Program.record (.request url body timeout agentHeader)
  Program.yield .request
  let document ← Program.update (nextDocument url)
  (Program.ofExcept document).during .request

/-! ## Addresses -/

/-- The bytes that stand for themselves in a query. -/
def isUnreserved (b : UInt8) : Bool :=
  let c := Char.ofNat b.toNat
  b < 128 && (c.isAlphanum || c = '_' || c = '.' || c = '-' || c = '~')

/-- One byte of a query. -/
def queryByte (b : UInt8) : Text :=
  if isUnreserved b then [Char.ofNat b.toNat]
  else if b = 32 then ['+']
  else '%' :: (Text.hexadecimal 2 b.toNat).map Char.toUpper

/-- A text as a value in a query. -/
def queryText (t : Text) : Text := (Storage.FileSystem.encode t).toList.flatMap queryByte

/-- Names and values as a query. -/
def query (fields : List (Text × Text)) : Text :=
  Text.join ['&'] (fields.map fun (name, value) => queryText name ++ '=' :: queryText value)

/-- A text that is to be encoded; half a character cannot be. -/
def encodable (runtime : Runtime) (t : Text) : Except Fault Text :=
  if t.any runtime.isHalf then .error .unencodable else .ok t

end ChatBot.Service
