import Inari.Lib.Except
import Inari.Lib.Text

/-!
# Names of the pairing signing keys

`pairing_assertions.py` and `openbao.py` of the Odoo module: the Transit key of each company of
each database.
-/

namespace Inari.Odoo

open Lib

/-- `RemoteServiceError`, and `PairingSigningError` at the signing boundary. -/
inductive SigningError
  | pairingSigning (message : String)
  | remoteService (message : String)
deriving DecidableEq

/-- `[a-z0-9]` -/
def isSafeChar (c : Char) : Bool := ('a' ≤ c && c ≤ 'z') || ('0' ≤ c && c ≤ '9')

/-- `_NAME`: `[a-z0-9][a-z0-9-]{0,127}` -/
def isOpenbaoName (value : String) : Bool :=
  match value.toList with
  | [] => false
  | c :: cs => isSafeChar c && cs.all (fun c => isSafeChar c || c == '-') && cs.length ≤ 127

def openbaoName (value name : String) : Except SigningError String := do
  require (isOpenbaoName value) (.remoteService (name ++ " is invalid."))
  pure value

/-- `_SAFE_DATABASE.sub("-", database.lower()).strip("-")` -/
def safeDatabase (lower : String → String) (database : String) : String :=
  strip (· == '-') (String.ofList (replaceRuns isSafeChar '-' false (lower database).toList))

def pairingSigningKeyName (lower : String → String) (database : String) (companyId : Int) :
    Except SigningError String := do
  let safe := safeDatabase lower database
  require (safe != "") (.pairingSigning "The Odoo database name is invalid.")
  openbaoName ("inari-odoo-pairing-" ++ String.ofList (safe.toList.take 80) ++ "-" ++
    toString companyId) "Pairing signing key name"

end Inari.Odoo
