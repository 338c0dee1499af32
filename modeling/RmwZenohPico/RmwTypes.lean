import Mathlib.Data.Fintype.Pi
import Mathlib.Data.Fintype.Basic

namespace RmwZenohPico.RmwTypes

inductive RmwRet
  | ok
  | error
  | timeout
  | unsupported
  | badAlloc
  | invalidArgument
  | incorrectRmwImplementation
  deriving DecidableEq, Repr

def rmwGetImplementationIdentifier : String := "rmw_zenoh_pico"

/-- The members which publishers, subscriptions, services and clients share:
a topic or service name and the private data of the middleware. -/
structure RmwHandle (D : Type) where
  implementationIdentifier : Option String
  name : Option String
  data : Option D

variable {D : Type}

/-- A NULL identifier passes the check. -/
def checkTypeIdentifiersMatch (identifier : Option String) : Bool :=
  identifier.all (· == rmwGetImplementationIdentifier)

def RmwHandle.ofData (name : String) (data : D) : RmwHandle D :=
  ⟨some rmwGetImplementationIdentifier, some name, some data⟩

@[simp] theorem ofData_identifier (name : String) (data : D) :
    checkTypeIdentifiersMatch (RmwHandle.ofData name data).implementationIdentifier = true := by
  simp [RmwHandle.ofData, checkTypeIdentifiersMatch]

@[simp] theorem ofData_name (name : String) (data : D) :
    (RmwHandle.ofData name data).name = some name := rfl

@[simp] theorem ofData_data (name : String) (data : D) :
    (RmwHandle.ofData name data).data = some data := rfl

abbrev Gid := Fin 16 → UInt8

structure RmwRequestId where
  writerGuid : Gid
  sequenceNumber : Int
  deriving DecidableEq

structure RmwServiceInfo where
  sourceTimestamp : Int
  receivedTimestamp : Int
  requestId : RmwRequestId
  deriving DecidableEq

structure RmwGid where
  implementationIdentifier : Option String
  data : Gid
  deriving DecidableEq

structure RmwMessageInfo where
  sourceTimestamp : Int
  receivedTimestamp : Int
  publicationSequenceNumber : Int
  receptionSequenceNumber : Int
  publisherGid : RmwGid
  fromIntraProcess : Bool
  deriving DecidableEq

inductive ZenohPicoEntityType
  | node
  | publisher
  | subscription
  | service
  | client
  deriving DecidableEq

end RmwZenohPico.RmwTypes
