/-
What can go wrong on the fieldbus.

The connection and its handles take turns on what they share. That one of them dies in the middle of
its turn and leaves the lock unusable is not modelled, and neither is the error that the others would
see then.
-/
import BoomWalker.Fieldbus.Params

namespace BoomWalker

inductive FieldbusError where
  | masterUnavailable (index : Nat)
  | domainCreationFailed
  | slaveConfigFailed (position : Nat)
  | frameConfigFailed (slave : Nat)
  | clockConfigFailed (slave : Nat)
  | activationFailed
  | invalidParams (e : FieldbusParamsError)
  | notRunning
deriving DecidableEq, Repr

/-- The name of a kind of error. -/
def FieldbusError.name : FieldbusError → String
  | masterUnavailable _ => "MasterUnavailable"
  | domainCreationFailed => "DomainCreationFailed"
  | slaveConfigFailed _ => "SlaveConfigFailed"
  | frameConfigFailed _ => "PdoConfigFailed"
  | clockConfigFailed _ => "DcConfigFailed"
  | activationFailed => "ActivationFailed"
  | invalidParams _ => "InvalidParams"
  | notRunning => "NotRunning"

def FieldbusError.message : FieldbusError → String
  | masterUnavailable index => "Could not acquire fieldbus master " ++ toString index
  | domainCreationFailed => "Could not create the process data domain"
  | slaveConfigFailed position => "Could not configure slave " ++ toString position
  | frameConfigFailed slave => "Could not configure the PDOs of slave " ++ toString slave
  | clockConfigFailed slave => "Could not configure the distributed clock of slave " ++ toString slave
  | activationFailed => "Could not activate the master"
  | invalidParams e => "Invalid fieldbus parameters: " ++ e.message
  | notRunning => "The fieldbus cycle has not been started"

end BoomWalker
