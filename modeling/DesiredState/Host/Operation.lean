/-!
# Operations of hosts

What a host of resources can be asked, and how it refuses.

Contents:

* `Operation`: the requests.
* `GatewayError`: the refusals and their wording.
-/

namespace DesiredState

/-- What a host can be asked. -/
inductive Operation
  | presence
  | create
  | get
  | update
  | delete
  | stop
  | tag
  | untag
  deriving DecidableEq

namespace Operation

def all : List Operation := [.presence, .create, .get, .update, .delete, .stop, .tag, .untag]

def text : Operation → String
  | .presence => "exists"
  | .create => "create"
  | .get => "get"
  | .update => "update"
  | .delete => "delete"
  | .stop => "stop"
  | .tag => "tag"
  | .untag => "untag"

def label : Operation → String
  | .tag => "tag_resource"
  | .untag => "untag_resource"
  | op => op.text

def ofLabel? (name : String) : Option Operation :=
  all.find? fun op => op.label == name

def isMutating : Operation → Bool
  | .presence => false
  | .get => false
  | _ => true

end Operation

/-- Why a host refuses a request. That a resource does not exist is no refusal when its presence
was asked for. -/
inductive GatewayError
  | transport (message : String)
  | throttled (retryAfterSecs : UInt64)
  | rejected (message : String)
  | notFound (key : String)
  | unsupported (operation : Operation)
  deriving DecidableEq

def GatewayError.message : GatewayError → String
  | .transport m => "transport failure: " ++ m
  | .throttled s => "throttled, retry after " ++ toString s.toNat ++ " seconds"
  | .rejected m => "request rejected: " ++ m
  | .notFound key => "resource not found: " ++ key
  | .unsupported op => "operation " ++ op.text ++ " is not supported"

end DesiredState
