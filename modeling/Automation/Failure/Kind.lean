/-!
# Kinds of failure

Every failure belongs to a kind. The kinds of the service itself form a tree below `flow`, and each
of them has the status with which a request that ends in it is answered; the other kinds come from
what the service is built on and have no status of their own.
-/

set_option autoImplicit false

namespace Automation

/-- The kinds of failure of a store. -/
inductive StoreFaultKind where
  | networkTimeout
  | serverSelection
  | connection
  | reconnect
  | operation
  | configuration
  | value
  | runtime
  deriving DecidableEq, Repr

namespace StoreFaultKind

/-- The name of a kind. -/
def name : StoreFaultKind → String
  | .networkTimeout => "NetworkTimeout"
  | .serverSelection => "ServerSelectionTimeoutError"
  | .connection => "ConnectionFailure"
  | .reconnect => "AutoReconnect"
  | .operation => "OperationFailure"
  | .configuration => "ConfigurationError"
  | .value => "ValueError"
  | .runtime => "RuntimeError"

/-- Whether the store could not be reached at all. -/
def isConnection : StoreFaultKind → Bool
  | .networkTimeout | .serverSelection | .connection | .reconnect => true
  | _ => false

/-- All kinds. -/
def all : List StoreFaultKind :=
  [.networkTimeout, .serverSelection, .connection, .reconnect, .operation, .configuration,
    .value, .runtime]

/-- The kind of a name. -/
def ofName? (s : String) : Option StoreFaultKind := all.find? fun k => k.name == s

end StoreFaultKind

/-- The kinds of failure. -/
inductive FailureKind where
  | flow
  | database
  | service
  | flowNotFound
  | runNotFound
  | conflict
  | validation
  | guardRejection
  | nodeExecution
  | unknownUnit
  | pastTarget
  | delivery
  | auditing
  | invalidInput
  | value
  | overflow
  | runtime
  | notImplemented
  | arguments
  | encoding
  | address
  | unicode
  | characters
  | recursion
  | assertion
  | store (kind : StoreFaultKind)
  deriving DecidableEq, Repr

namespace FailureKind

/-- The name of a kind. -/
def name : FailureKind → String
  | .flow => "FlowException"
  | .database => "FlowDBException"
  | .service => "FlowServiceException"
  | .flowNotFound => "FlowNotFoundException"
  | .runNotFound => "TestRunNotFoundException"
  | .conflict => "FlowConflictException"
  | .validation => "FlowValidationException"
  | .guardRejection => "GuardRejectionException"
  | .nodeExecution => "NodeExecutionException"
  | .unknownUnit => "UnknownUnitException"
  | .pastTarget => "PastTargetException"
  | .delivery => "DeliveryException"
  | .auditing => "ExecutionLoggingException"
  | .invalidInput => "ValidationError"
  | .value => "ValueError"
  | .overflow => "OverflowError"
  | .runtime => "RuntimeError"
  | .notImplemented => "NotImplementedError"
  | .arguments => "TypeError"
  | .encoding => "PydanticSerializationError"
  | .address => "InvalidURL"
  | .unicode => "UnicodeError"
  | .characters => "UnicodeEncodeError"
  | .recursion => "RecursionError"
  | .assertion => "AssertionError"
  | .store kind => kind.name

/-- The kind directly above a kind of the service. -/
def parent? : FailureKind → Option FailureKind
  | .database | .service | .flowNotFound | .runNotFound | .conflict | .validation
  | .guardRejection | .nodeExecution | .auditing => some .flow
  | .unknownUnit | .pastTarget | .delivery => some .nodeExecution
  | _ => none

/-- The kinds above a kind, the nearest first. No kind has more than two. -/
def ancestors (k : FailureKind) : List FailureKind :=
  match k.parent? with
  | none => []
  | some p => p :: p.parent?.toList

/-- The status of the answer to a request that ends in a failure of this kind. -/
def status? : FailureKind → Option Nat
  | .flowNotFound | .runNotFound => some 404
  | .conflict => some 409
  | .validation => some 400
  | .guardRejection => some 422
  | .database | .service | .nodeExecution | .unknownUnit | .pastTarget | .delivery | .auditing =>
    some 500
  | _ => none

/-- The kinds of the service. -/
def ofService : List FailureKind :=
  [.flow, .database, .service, .flowNotFound, .runNotFound, .conflict, .validation,
    .guardRejection, .nodeExecution, .unknownUnit, .pastTarget, .delivery, .auditing]

/-- The kind of the service with a name. -/
def ofName? (s : String) : Option FailureKind := ofService.find? fun k => k.name == s

end FailureKind

end Automation
