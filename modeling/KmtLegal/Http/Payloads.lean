import KmtLegal.Js.Base64
import KmtLegal.Platform

/-!
# Payloads in links

The text of a payload, as a signed token and the cursor of a list carry it in a link.
-/

namespace KmtLegal

open Js

/-- `encodePayload(payload)`. -/
def encodePayload (payload : Json) : String := base64url (utf8 payload.stringify)

/-- `JSON.parse(Buffer.from(value, "base64url").toString("utf8"))`. -/
def decodePayload (P : Platform) (value : String) : Option Json :=
  let bytes := base64urlBytes value
  P.parseJson ((utf8Text bytes).getD (P.lossyText bytes))

end KmtLegal
