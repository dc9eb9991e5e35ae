/-
The platform user on whose behalf a request is made.
-/
import ServiceBroker.Text.Base64

namespace ServiceBroker

/-- A user of a platform: the platform's name, and a text that describes the user. -/
structure OriginatingIdentity where
  platform : String
  value : String
deriving DecidableEq, Repr

/-- The identity in a header: the platform, a space, and the description in Base64. -/
def OriginatingIdentity.header (i : OriginatingIdentity) : String :=
  i.platform ++ " " ++ Base64.encodeText i.value

end ServiceBroker
