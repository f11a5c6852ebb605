import Provision.Bag.Line
import Provision.Params.Basic
import Provision.Text.Quoted

/-! Who uses a service: a user name with a password, or an access id with an access key.
Each may be given under a second, shorter name. The description of a credential shows only
what is not secret. -/

set_option autoImplicit false

namespace Provision

abbrev Credential := Params .credential

namespace Credential

def storeKey? (c : Credential) : Option String := c.indirection?

def usesCredentialStore (c : Credential) : Bool := c.isIndirect

def username? (c : Credential) : Option String := c.bag.firstNonEmpty? "username" "user"

def password? (c : Credential) : Option String := c.bag.firstNonEmpty? "password" "pass"

def accessId? (c : Credential) : Option String := c.bag.firstNonEmpty? "access_id" "client_id"

def accessKey? (c : Credential) : Option String := c.bag.firstNonEmpty? "access_key" "client_key"

def setStoreKey (c : Credential) (key : String) : Credential := c.put "store_key" key

def setUsername (c : Credential) (username : String) : Credential := c.put "username" username

def setPassword (c : Credential) (password : String) : Credential := c.put "password" password

def setAccessId (c : Credential) (accessId : String) : Credential := c.put "access_id" accessId

def setAccessKey (c : Credential) (accessKey : String) : Credential := c.put "access_key" accessKey

/-- The description of a credential, in which password and access key do not occur. -/
def debugText (c : Credential) : String :=
  "CredentialParams \x7b store_key: " ++ Text.quotedOption c.storeKey? ++ ", username: " ++
    Text.quotedOption c.username? ++ ", access_id: " ++ Text.quotedOption c.accessId? ++
    ", .. \x7d"

end Credential

end Provision
