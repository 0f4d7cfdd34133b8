import CloudProvider.Resource.Lifecycle

/-!
# Email identities

A domain or an address that mail may be sent from. What is allowed to send is the identity of the
resource itself.

- `EmailIdentity.kindOf`: whether an identity is a domain or an address.
- `EmailIdentity`: an identity as the API has it.
- `EmailIdentity.Draft`, `EmailIdentity.Changes`: what is sent to create and to change one.
- `EmailIdentity.writeTo`: an identity written into the state of its resource.
- `EmailIdentity.lifecycle`: the type of resource.
-/

namespace CloudProvider
open Json
set_option autoImplicit false

/-- An identity as the API has it. -/
structure EmailIdentity where
  identity : String
  identityType : String
  verificationStatus : String
  dkimSigningEnabled : Bool
  dkimTokens : List String
  configurationSet : Option String
deriving DecidableEq

namespace EmailIdentity

def decoder : Decoder EmailIdentity :=
  Record.decoder "struct EmailIdentity" <|
    EmailIdentity.mk <$> Record.required "identity" Decode.text
      <*> Record.defaulted "identity_type" Decode.text ""
      <*> Record.required "verification_status" Decode.text
      <*> Record.defaulted "dkim_signing_enabled" Decode.boolean false
      <*> Record.defaulted "dkim_tokens" (Decode.list Decode.text) []
      <*> Record.optional "configuration_set" Decode.text

def identityPattern : String :=
  "^([^@\\s]+@)?([a-zA-Z0-9]([-a-zA-Z0-9]\x7b0,61\x7d[a-zA-Z0-9])?\\.)+[a-zA-Z]\x7b2,63\x7d$"

def schema : Schema :=
  (Schema.new 0).withDescription "Email sending identity"
    |>.withAttribute "identity"
      ((Attribute.required .string).forceNew.validate (.pattern identityPattern)
        |>.withDescription "Domain (example.com) or address (ops@example.com)")
    |>.withAttribute "dkim_signing_enabled" ((Attribute.optional .bool).withDefault (.bool true))
    |>.withAttribute "configuration_set" ((Attribute.optional .string).validate (.stringLength 1 64))
    |>.withAttribute "identity_type" (Attribute.computedOnly .string)
    |>.withAttribute "verification_status" (Attribute.computedOnly .string)
    |>.withAttribute "dkim_tokens"
      ((Attribute.computedOnly (.list .string)).withDescription
        "CNAME tokens to publish for DKIM verification")

/-- Whether an identity is a domain or an address, which has an at sign. -/
def kindOf (identity : String) : String :=
  if identity.toList.contains '@' then "EMAIL_ADDRESS" else "DOMAIN"

/-! ## Requests -/

structure Draft where
  identity : String
  dkimSigningEnabled : Bool
  configurationSet : Option String
deriving DecidableEq

/-- Mail is signed unless the resource says otherwise. -/
def requestedSigning (s : ResourceState) : Bool :=
  (s.bool? "dkim_signing_enabled").getD true

def Draft.ofState (s : ResourceState) : Except ProviderError Draft := do
  return {
    identity := ← s.requiredText "identity"
    dkimSigningEnabled := requestedSigning s
    configurationSet := s.text? "configuration_set" }

def Draft.toJson (d : Draft) : Json :=
  .object (member? "configuration_set" .string d.configurationSet ++
    [("dkim_signing_enabled", .bool d.dkimSigningEnabled), ("identity", .string d.identity)])

/-- What is sent to change an identity. The configuration set may be taken away. -/
structure Changes where
  dkimSigningEnabled : Option Bool
  configurationSet : Option (Option String)
deriving DecidableEq

def Changes.ofState (s : ResourceState) : Changes where
  dkimSigningEnabled :=
    if s.hasChange "dkim_signing_enabled" then some (requestedSigning s) else none
  configurationSet :=
    if s.hasChange "configuration_set" then some (s.text? "configuration_set") else none

def Changes.toJson (c : Changes) : Json :=
  .object (member? "configuration_set" (Json.option .string) c.configurationSet ++
    member? "dkim_signing_enabled" .bool c.dkimSigningEnabled)

/-! ## The type of resource -/

/-- Writes an identity into the state of its resource. An API that does not say what the identity
is leaves it to its text. -/
def writeTo (e : EmailIdentity) (s : ResourceState) : ResourceState :=
  let kind := if e.identityType = "" then kindOf e.identity else e.identityType
  s.set "identity" (.string e.identity)
    |>.set "dkim_signing_enabled" (.bool e.dkimSigningEnabled)
    |>.set "configuration_set" (.option .string e.configurationSet)
    |>.set "identity_type" (.string kind)
    |>.set "verification_status" (.string e.verificationStatus)
    |>.set "dkim_tokens" (.strings e.dkimTokens)

/-- An imported identity has no blanks around it. -/
def adopt (id : String) (s : ResourceState) : Except ProviderError ResourceState :=
  if Text.isBlankText id then
    .error (.invalidConfig
      "import id must be the identity, e.g. example.com or ops@example.com")
  else .ok (s.setId (Text.trim id))

def lifecycle : Lifecycle EmailIdentity where
  kind := "email identity"
  schema := schema
  timeouts := .default
  place := .top ["email", "identities"]
  decoder := decoder
  identity := identity
  draft _ s := do return (← Draft.ofState s).toJson
  updatable := ["dkim_signing_enabled", "configuration_set"]
  changes s := .ok (Changes.ofState s).toJson
  writeTo := writeTo
  phases := none
  attachment := none
  adopt := adopt

end EmailIdentity

end CloudProvider
