import CloudProvider.Http.Client

/-!
# The account of a token

- `Account`: whom a token belongs to.
- `TokenCheck`: whether the API accepts a token.
- `Client.checkToken`: asks the API.
-/

namespace CloudProvider
open Json
set_option autoImplicit false

/-- Whom a token belongs to. -/
structure Account where
  id : String
  name : String
  email : Option String
deriving DecidableEq

namespace Account

def decoder : Decoder Account :=
  Record.decoder "struct Account" <|
    Account.mk <$> Record.required "id" Decode.text
      <*> Record.required "name" Decode.text
      <*> Record.optional "email" Decode.text

def toJson (a : Account) : Json :=
  .object [("email", .option .string a.email), ("id", .string a.id), ("name", .string a.name)]

end Account

/-- Whether the API accepts a token. -/
inductive TokenCheck where
  | accepted (holder : String)
  | rejected (reason : String)
deriving DecidableEq

def TokenCheck.toJson : TokenCheck → Json
  | accepted holder =>
    .object [("account_info", .string holder), ("authenticated", .bool true), ("error", .null)]
  | rejected reason =>
    .object [("account_info", .null), ("authenticated", .bool false), ("error", .string reason)]

namespace Client

def account (c : Client) : Call Account :=
  c.get Account.decoder ["account"]

/-- Asks whose token it is. Only an answer that denies access means that the token is rejected; any
other failure leaves the question open. -/
def checkToken (c : Client) : ExceptT ProviderError (StateM World) TokenCheck := fun w =>
  match c.account w with
  | (.ok account, w) => (.ok (.accepted s!"{account.name} ({account.id})"), w)
  | (.error e, w) =>
    if e.isUnauthorized then (.ok (.rejected e.message), w) else (.error e.toProviderError, w)

end Client

end CloudProvider
