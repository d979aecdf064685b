import Overlay.Message.Request
import Overlay.Pool.Basic

/-!
# Errors of a tier

Why an operation of a tier fails, as causes; the wording is in `TierError.message`.
-/

namespace Overlay

/-- Why a call to the parent tier gave no answer. -/
inductive EscalationFault where
  /-- Nothing was heard from the parent. -/
  | unreachable (why : String)
  /-- The parent answered with a failure. -/
  | refused (status error : String)
  /-- The answer could not be read. -/
  | undecodable (status : String)
  /-- The parent gave no subnet. -/
  | noSubnet
  deriving DecidableEq, Repr

/-- Why a message did not reach a party below. -/
inductive DeliveryFault where
  | unreachable (recipient : String)
  | notRegistered (cluster : String)
  | answered (cluster status : String)
  | failed (cluster why : String)
  deriving DecidableEq, Repr

/-- What is wrong with the arguments of an operation. -/
inductive BadArgument where
  | clientEmpty
  | requesterEmpty
  | request (fault : RequestFault)
  | emptyNetwork (number : UInt32) (job : String)
  | emptyReport
  | incompleteDescriptor
  | systemIdEmpty
  | noReplicas
  | incompleteGateway
  | gatewayWithoutAddress
  | gatewayNameTaken (job owner : String)
  | incompleteRegistration
  | clusterNotRegistered (cluster : String)
  | jobsBelongToRoot
  | gatewaysBelongToRoot
  | clustersBelongToRoot
  | rootHasNoParent
  deriving DecidableEq

/-- Why an operation of a tier fails. -/
inductive TierError where
  | jobNotFound (key : String)
  | instanceNotFound (job : String) (number : UInt32)
  | gatewayNotFound (id : String)
  /-- The parent could not be asked. -/
  | escalationFailed (fault : EscalationFault)
  /-- A look-up needed the parent and could not ask it. -/
  | resolutionFailed (fault : EscalationFault)
  | conflictingReport (job : String) (number : UInt32)
  | badArgument (fault : BadArgument)
  | notDelivered (fault : DeliveryFault)
  | pool (error : PoolError)
  deriving DecidableEq

namespace EscalationFault

/-- The wording of a fault. -/
def message : EscalationFault → String
  | unreachable why => why
  | refused status error => s!"parent returned {status}: {error}"
  | undecodable status => s!"decoding {status}: error decoding response body"
  | noSubnet => "parent returned no subnet"

/-- The wording of the failure of the call. -/
def escalation (fault : EscalationFault) : String :=
  "parent tier unreachable: " ++ fault.message

end EscalationFault

namespace DeliveryFault

/-- The wording of a fault. -/
def message : DeliveryFault → String
  | unreachable recipient => s!"{recipient} unreachable"
  | notRegistered cluster => s!"cluster {cluster} is not registered"
  | answered cluster status => s!"cluster {cluster} answered {status}"
  | failed cluster why => s!"cluster {cluster}: {why}"

end DeliveryFault

namespace RequestFault

/-- The wording of a fault. -/
def message : RequestFault → String
  | unexpectedTopic topic => "unexpected topic " ++ topic
  | badRequest kind => s!"bad {kind} request"

end RequestFault

namespace BadArgument

/-- The wording of a fault. -/
def message : BadArgument → String
  | clientEmpty => "client id is empty"
  | requesterEmpty => "requester id is empty"
  | request fault => fault.message
  | emptyNetwork number job => s!"empty network report for instance {number} of {job}"
  | emptyReport => "deploy status needs a job id and at least one instance"
  | incompleteDescriptor => "app_name, app_ns, service_name and service_ns are required"
  | systemIdEmpty => "system_job_id is required"
  | noReplicas => "replicas must be positive and cluster_id set"
  | incompleteGateway => "gateway_id, host and cluster_id are required"
  | gatewayWithoutAddress => "gateway needs gateway_ipv4 or gateway_ipv6"
  | gatewayNameTaken job owner => s!"job {job} already belongs to {owner}"
  | incompleteRegistration => "cluster_id and cluster_address are required"
  | clusterNotRegistered cluster => s!"cluster {cluster} is not registered"
  | jobsBelongToRoot => "jobs are registered at the root tier"
  | gatewaysBelongToRoot => "gateways are deployed at the root tier"
  | clustersBelongToRoot => "clusters register at the root tier"
  | rootHasNoParent => "root tier has no parent"

end BadArgument

namespace TierError

/-- The wording of an error. -/
def message : TierError → String
  | jobNotFound key => "job not found: " ++ key
  | instanceNotFound job number => s!"instance {number} not found in job {job}"
  | gatewayNotFound id => "gateway not found: " ++ id
  | escalationFailed fault => fault.escalation
  | resolutionFailed fault => "resolution failed: " ++ fault.escalation
  | conflictingReport job number =>
    s!"conflicting network report for instance {number} of job {job}"
  | badArgument fault => "invalid arguments: " ++ fault.message
  | notDelivered fault => "child notification failed: " ++ fault.message
  | pool error => "address management error: " ++ error.message

end TierError

end Overlay
