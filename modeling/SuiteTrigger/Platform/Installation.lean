import SuiteTrigger.Platform.Remote

namespace SuiteTrigger.Installation

open Http

/-- The address that counts as the fetch of a token. -/
def tokenUrl : String := "installation_token"

/-- An id as a whole number in the log. -/
def idText : Json → String
  | .bool b => if b then "1" else "0"
  | .float x => (x.truncate?.map toString).getD x.text
  | v => v.text

def tokenOf : Json → Except Failure Json
  | .obj fields =>
    match fields.lookup "token" with
    | some token => .ok token
    | none => .error (.missingKey "token")
  | _ => .error .wrongType

def fetchToken (id : Json) : Work Client Json := do
  Work.log .debug ("Getting NEW installation access token for " ++ idText id)
  Work.count (.apiCall (Endpoint.ofUrl tokenUrl))
  let data ← Remote.run ("installation token for " ++ id.text) fun c =>
    c.call .post [] ("/app/installations/" ++ id.text ++ "/access_tokens") (some .application) none
  Work.ofExcept (tokenOf data)

/-- The token of an installation. Null is no token to keep. -/
def token (id : Json) : Work Client Json := do
  match (← Work.platform).tokens.lookup id.text with
  | some token => return token
  | none =>
    let token ← fetchToken id
    if token = .null then return token
    else Work.change fun c => (.ok token, { c with tokens := c.tokens ++ [(id.text, token)] })

/-- How requests of an installation are authorized. -/
def authorization : Json → Option Authorization
  | .null => none
  | token => some (.token token.text)

/-- Makes the client work for an installation. -/
def connect (id : Json) : Work Client Unit := do
  let token ← token id
  Work.change fun c =>
    (.ok (), { c with authorization := authorization token, callCount := 0 })

end SuiteTrigger.Installation
