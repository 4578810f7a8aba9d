import AccountManager.Config
import AccountManager.Url.Parse

/-!
# Endpoints

The two services are reached at addresses from the configuration, over a secure connection only.
-/

namespace AccountManager

def secureScheme : List Char := "https".toList

def readEndpoint (text : String) : Except AccountError Url :=
  match Url.parse text with
  | .error error => .error (.invalidConfig (.badUrl text error))
  | .ok url => if url.scheme = secureScheme then .ok url else .error (.insecureEndpoint text)

def Config.accountsEndpoint (config : Config) : Except AccountError Url :=
  readEndpoint config.remoteUrl

def Config.identityEndpoint (config : Config) : Except AccountError Url :=
  readEndpoint config.authServerUrl

end AccountManager
