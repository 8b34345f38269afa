import LightStream.Core.Domain

/-!
One attempt of a client call: connecting, sending the request and reading the answer.  The
instants at which the code reads the clock and what the network answers are inputs of the
model; no order is assumed among the instants.  The URI library is the field `uriFault`.
-/

namespace LightStream

inductive Interruption where
  | cancelled
  | deadline
  | transport
deriving DecidableEq

inductive ClientError where
  | invalidEndpoint (endpoint reason : String)
  | connection (message : String)
  | request (message : String)
  | protocol (message : String)
  | securityConfiguration (message : String)
  | interrupted (reason : Interruption) (outcome : RequestOutcome)
      (request : Option AmbiguousRequest)
  | domain (error : DomainError)
deriving DecidableEq

inductive AttemptError where
  | deadline
  | client (error : ClientError)
deriving DecidableEq

abbrev Instant := Nat

structure Deadline where
  expiresAt : Instant
deriving DecidableEq

def Deadline.after (started duration : Nat) : Deadline := ⟨started + duration⟩

def Deadline.remaining (deadline : Deadline) (now : Instant) : Option Nat :=
  if now < deadline.expiresAt then some (deadline.expiresAt - now) else none

def Deadline.expired (deadline : Deadline) (now : Instant) : Bool :=
  (deadline.remaining now).isNone

inductive ClientSecurity where
  | localInsecure
  | secured
deriving DecidableEq

/-- What `Client::connect_with_security` builds, with the URI library's verdict on an
endpoint: the reason for which `Endpoint::from_shared` refuses it. -/
structure Client where
  seeds : List String
  seeded : seeds ≠ []
  deadline : Nat
  retry : Bool
  security : ClientSecurity
  uriFault : String → Option String

structure Endpoints where
  list : List String
  nonempty : list ≠ []

def Client.endpoints (client : Client) : Endpoints := ⟨client.seeds, client.seeded⟩

def Endpoints.at (endpoints : Endpoints) (index : Nat) : String :=
  endpoints.list.get ⟨index % endpoints.list.length,
    Nat.mod_lt _ (List.length_pos_of_ne_nil endpoints.nonempty)⟩

def wrappingNext (index : Nat) : Nat := (index + 1) % 2 ^ 64

def Client.validateEndpoint (client : Client) (endpoint : String) : Except ClientError Unit :=
  match client.uriFault endpoint with
  | none => .ok ()
  | some reason => .error (.invalidEndpoint endpoint reason)

/-- `add_hint`: the hinted endpoint moves, or goes, to the front. -/
def Client.addHint (client : Client) (endpoints : Endpoints) (endpoint : String) :
    Except ClientError (Endpoints × Nat) :=
  match client.validateEndpoint endpoint with
  | .error error => .error error
  | .ok () => .ok (⟨endpoint :: endpoints.list.erase endpoint, List.cons_ne_nil _ _⟩, 0)

def Client.addLeader (client : Client) (endpoints : Endpoints) (index : Nat)
    (leader : Option LeaderHint) : Except ClientError (Endpoints × Nat) :=
  match leader with
  | none => .ok (endpoints, index)
  | some hint => client.addHint endpoints hint.publicUri

def validateSecurityEndpoint (security : ClientSecurity) (endpoint : String) :
    Except ClientError Unit :=
  let valid := match security with
    | .localInsecure => "http://".toList.isPrefixOf endpoint.toList
    | .secured => "https://".toList.isPrefixOf endpoint.toList
  if valid then .ok ()
  else .error (.invalidEndpoint endpoint
    "endpoint scheme does not match the selected security mode")

def containsText (text marker : String) : Bool :=
  text.toList.tails.any fun suffix => marker.toList.isPrefixOf suffix

def classifyConnectError (security : ClientSecurity) (message : String) : ClientError :=
  let lower := message.map Char.toLower
  if security = .secured ∧ ["certificate", "tls", "unknownissuer", "invalid peer",
      "not valid for"].any (containsText lower) then .securityConfiguration message
  else .connection message

inductive Transport where
  | connected
  | failed (message : String)
  | timedOut
deriving DecidableEq

inductive DecodeFault where
  | identity (kind reason : String)
  | name (kind reason : String)
  | range (reason : String)
  | payload (reason : String)
deriving DecidableEq

def DecodeFault.toDomain : DecodeFault → DomainError
  | .identity kind reason => .invalidIdentity kind reason
  | .name kind reason => .invalidName kind reason
  | .range reason => .invalidRange reason
  | .payload reason => .invalidPayload reason

inductive CredentialFault where
  | configuration (message : String)
  | identity (fault : DecodeFault)
deriving DecidableEq

def CredentialFault.toClient : CredentialFault → ClientError
  | .configuration message => .securityConfiguration message
  | .identity fault => .domain fault.toDomain

/-- What an attempt meets while it connects: the clock before and after, the reason for
which the TLS material is refused, the transport, and the fault of the credential file. -/
structure Connection where
  started : Instant
  tlsFault : Option String
  transport : Transport
  settled : Instant
  credentialFault : Option CredentialFault
deriving DecidableEq

def Client.connectChannel (client : Client) (endpoint : String) (deadline : Deadline)
    (connection : Connection) : Except AttemptError Unit :=
  match validateSecurityEndpoint client.security endpoint with
  | .error error => .error (.client error)
  | .ok () =>
    if deadline.expired connection.started then .error .deadline
    else match client.uriFault endpoint with
      | some reason => .error (.client (.invalidEndpoint endpoint reason))
      | none =>
        match client.security, connection.tlsFault with
        | .secured, some reason => .error (.client (.invalidEndpoint endpoint reason))
        | _, _ =>
          match connection.transport with
          | .connected => .ok ()
          | .failed message =>
            if deadline.expired connection.settled then .error .deadline
            else .error (.client (classifyConnectError client.security message))
          | .timedOut => .error .deadline

def Client.connectClient (client : Client) (endpoint : String) (deadline : Deadline)
    (connection : Connection) : Except AttemptError Unit :=
  match client.connectChannel endpoint deadline connection with
  | .error error => .error error
  | .ok () =>
    match client.security, connection.credentialFault with
    | .secured, some fault => .error (.client fault.toClient)
    | _, _ => .ok ()

/-- `timed_request`: fails when nothing of the deadline remains. -/
def timedRequest (deadline : Deadline) (asked : Instant) : Except AttemptError Nat :=
  match deadline.remaining asked with
  | none => .error .deadline
  | some timeout => .ok timeout

inductive Code where
  | deadlineExceeded
  | unauthenticated
  | permissionDenied
  | unavailable
  | other
deriving DecidableEq

structure Status where
  code : Code
  message : String
  rendered : String
deriving DecidableEq

inductive Reply (ρ : Type) where
  | response (value : ρ)
  | status (status : Status)
  | timedOut

structure Exchange (ρ : Type) where
  reply : Reply ρ
  settled : Instant

def awaitRpc {ρ : Type} (deadline : Deadline) (exchange : Exchange ρ) : Except AttemptError ρ :=
  match exchange.reply with
  | .response value => .ok value
  | .status status =>
    if status.code = .deadlineExceeded ∨ deadline.expired exchange.settled then .error .deadline
    else if status.code = .unauthenticated then
      .error (.client (.domain .securityAuthenticationFailed))
    else if status.code = .permissionDenied then
      .error (.client (.domain .securityPermissionDenied))
    else if status.code = .unavailable ∧ containsText status.message "security policy" then
      .error (.client (.domain .securityPolicyStale))
    else .error (.client (.request status.rendered))
  | .timedOut => .error .deadline

inductive WireFault where
  | protocol (message : String)
  | decode (fault : DecodeFault)
deriving DecidableEq

def WireFault.toClient : WireFault → ClientError
  | .protocol message => .protocol message
  | .decode fault => .domain fault.toDomain

/-- The typed result of a response, with the outcome of decoding it.  The `Unsupported`
result of a publish is the typed error that it becomes. -/
inductive Body (α : Type) where
  | success (value : Except WireFault α)
  | error (value : Except DecodeFault DomainError)
  | omitted

def decodeDomainError (value : Except DecodeFault DomainError) : ClientError :=
  match value with
  | .ok error => .domain error
  | .error fault => .domain fault.toDomain

def Body.read {α : Type} (operation : String) : Body α → Except AttemptError α
  | .success (.ok value) => .ok value
  | .success (.error fault) => .error (.client fault.toClient)
  | .error value => .error (.client (decodeDomainError value))
  | .omitted => .error (.client (.protocol (operation ++ " response omitted its typed result")))

/-- What an attempt meets: its connection, the clock when the request is timed, and the
fate of the request once it is sent. -/
structure Attempt (α : Type) where
  connection : Connection
  asked : Instant
  exchange : Exchange (Body α)

def Client.prepare {α : Type} (client : Client) (endpoint : String) (deadline : Deadline)
    (attempt : Attempt α) : Except AttemptError Nat :=
  match client.connectClient endpoint deadline attempt.connection with
  | .error error => .error error
  | .ok () => timedRequest deadline attempt.asked

def Attempt.receive {α : Type} (operation : String) (deadline : Deadline)
    (attempt : Attempt α) : Except AttemptError α :=
  match awaitRpc deadline attempt.exchange with
  | .error error => .error error
  | .ok body => body.read operation

/-- The shape shared by the `*_once` functions: the flag is raised when the request is
sent. -/
def Client.callOnce {α : Type} (client : Client) (operation endpoint : String)
    (deadline : Deadline) (attempt : Attempt α) (requestMayHaveReached : Bool) :
    Bool × Except AttemptError α :=
  match client.prepare endpoint deadline attempt with
  | .error error => (requestMayHaveReached, .error error)
  | .ok _ => (true, attempt.receive operation deadline)

structure Sleep where
  asked : Instant
  woken : Instant
deriving DecidableEq

def retrySleep (deadline : Deadline) (sleep : Sleep) : Except AttemptError Unit :=
  if deadline.expired sleep.asked then .error .deadline
  else if deadline.expired sleep.woken then .error .deadline
  else .ok ()

def requestAttemptError (operation : String) : AttemptError → ClientError
  | .deadline => .request (operation ++ " deadline expired")
  | .client error => error

def interruptedPublishError (reason : Interruption) (request : ProducerRequestId)
    (requestMayHaveReached : Bool) : ClientError :=
  .interrupted reason (if requestMayHaveReached then .ambiguousCommit else .definiteNoCommit)
    (some (.publish request))

def mutationDeadlineError (request : MutationRequestId) (requestMayHaveReached : Bool) :
    ClientError :=
  .domain (.quorumUnavailable .data
    (if requestMayHaveReached then .ambiguousCommit else .definiteNoCommit)
    (some (.mutation request)))

def nonWriteDeadlineError : ClientError :=
  .domain (.quorumUnavailable .data .notApplicable none)

end LightStream
