import DesiredState.Host.Operation
import DesiredState.Resource.Spec

/-!
# Failures

Why a sync, a deletion or a whole run of the program fails.

Contents:

* `Failure`: why one resource fails.
* `ManifestError`, `StoreError`, `ProgramError`: why a run fails.
* `ProgramError.message`: the wording.
* `ProgramError.isRetryable`, `ProgramError.retryDelay?`: whether and when to try again.
-/

namespace DesiredState

/-- Why a sync or a deletion of one resource fails. -/
inductive Failure
  | validation (error : ValidationError)
  | provider (kind : String) (operation : Operation) (source : GatewayError)
  | cancelled (kind : String) (operation : Operation)
  deriving DecidableEq

def Failure.message : Failure → String
  | .validation e => "Validation error: " ++ e.message
  | .provider kind op source => kind ++ " " ++ op.text ++ " failed: " ++ source.message
  | .cancelled kind op => kind ++ " " ++ op.text ++ " cancelled"

def Failure.isCancelled : Failure → Bool
  | .cancelled _ _ => true
  | _ => false

/-- Why there is no usable manifest. -/
inductive ManifestError
  | fileNotFound (path : String)
  | parse (message : String) (location : Option String)
  | duplicateName (kind name : String)
  | invalid (count : Nat) (first : ValidationError)
  deriving DecidableEq

def ManifestError.message : ManifestError → String
  | .fileNotFound path => "Manifest file not found: " ++ path
  | .parse message _ => "Failed to parse manifest: " ++ message
  | .duplicateName kind name => "Duplicate " ++ kind ++ " name: " ++ name
  | .invalid count first =>
    toString count ++ " resource(s) failed validation, first: " ++ first.message

/-- Why the recorded state cannot be used. -/
inductive StoreError
  | corrupted (message : String)
  | serialization (message : String)
  | versionMismatch (expected found : String)
  deriving DecidableEq

def StoreError.message : StoreError → String
  | .corrupted message => "State is corrupted: " ++ message
  | .serialization message => "State serialization error: " ++ message
  | .versionMismatch expected found =>
    "State version mismatch: expected " ++ expected ++ ", found " ++ found

/-- Why a run of the program fails. -/
inductive ProgramError
  | resource (failure : Failure)
  | manifest (error : ManifestError)
  | store (error : StoreError)
  | io (message : String)
  deriving DecidableEq

namespace ProgramError

def message : ProgramError → String
  | .resource f => f.message
  | .manifest e => "Manifest error: " ++ e.message
  | .store e => "State error: " ++ e.message
  | .io m => "IO error: " ++ m

/-- The same request may succeed later. -/
def isRetryable : ProgramError → Bool
  | .resource (.provider _ _ (.throttled _)) => true
  | .resource (.provider _ _ (.transport _)) => true
  | _ => false

def retryDelay? : ProgramError → Option UInt64
  | .resource (.provider _ _ (.throttled secs)) => some secs
  | .resource (.provider _ _ (.transport _)) => some 5
  | _ => none

def isValidation : ProgramError → Bool
  | .resource (.validation _) => true
  | _ => false

def isCancelled : ProgramError → Bool
  | .resource f => f.isCancelled
  | _ => false

end ProgramError

end DesiredState
