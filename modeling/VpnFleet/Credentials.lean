import VpnFleet.Json.Text
import VpnFleet.Text.Blank
import VpnFleet.Text.Quoted

/-!
# Cloud credentials

An access key for a provider. The secret goes into the payload for the backend
and nowhere else: the text shown for credentials hides it.
-/

namespace VpnFleet

/-- An access key and its secret. -/
structure Credentials where
  provider : String
  accessKeyId : String
  secretAccessKey : String
deriving DecidableEq

namespace Credentials

/-- Credentials as entered, without the blanks around each part. -/
def entered (provider accessKeyId secretAccessKey : String) : Credentials where
  provider := Text.trim provider
  accessKeyId := Text.trim accessKeyId
  secretAccessKey := Text.trim secretAccessKey

/-- What is shown in place of the secret. -/
def redacted : String :=
  "<redacted>"

/-- The text shown for credentials. -/
def shown (credentials : Credentials) : String :=
  "Credentials \x7b provider: " ++ Text.quoted credentials.provider
    ++ ", access_key_id: " ++ Text.quoted credentials.accessKeyId
    ++ ", secret_access_key: " ++ Text.quoted redacted ++ " \x7d"

/-- The JSON object that the backend reads: key and secret, without the provider. -/
def payload (credentials : Credentials) : String :=
  "\x7b\"access_key_id\":" ++ Json.writeString credentials.accessKeyId
    ++ ",\"secret_access_key\":" ++ Json.writeString credentials.secretAccessKey ++ "\x7d"

end Credentials
end VpnFleet
