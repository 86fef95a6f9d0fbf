/-
Endpoints: texts that say where a publisher is bound and a subscriber connects. The checks here are
those made at once. That a peer is absent shows later, and is no fault.
-/
import BoomWalker.Text.Digits

namespace BoomWalker

/-- Why an endpoint cannot be used. -/
inductive SocketFault where
  | malformed
  | unknownProtocol
  /-- The protocol is known, but not made for publishing. -/
  | unfitProtocol
  | pathTooLong
  | noDirectory
  | noDevice
deriving DecidableEq, Repr

namespace SocketFault

def reason : SocketFault → String
  | malformed => "Invalid argument"
  | unknownProtocol => "Protocol not supported"
  | unfitProtocol => "The protocol is not compatible with the socket type"
  | pathTooLong => "File name too long"
  | noDirectory => "No such file or directory"
  | noDevice => "No such device"

def message (f : SocketFault) : String :=
  "Socket error: Could not connect the socket: " ++ f.reason

end SocketFault

inductive Protocol where
  | inproc
  | ipc
  | tcp
deriving DecidableEq, Repr

/-- A protocol and an address. -/
structure Endpoint where
  protocol : Protocol
  address : List Char
deriving Repr

namespace Endpoint

/-- The text before and after the first `://`. -/
def split? : List Char → Option (List Char × List Char)
  | [] => none
  | ':' :: '/' :: '/' :: rest => some ([], rest)
  | c :: rest => (split? rest).map fun (p, a) => (c :: p, a)

/-- An endpoint from its text. -/
def ofText (s : String) : Except SocketFault Endpoint :=
  match split? s.toList with
  | none | some ([], _) | some (_, []) => .error .malformed
  | some (protocol, address) =>
    match String.ofList protocol with
    | "inproc" => .ok ⟨.inproc, address⟩
    | "ipc" => .ok ⟨.ipc, address⟩
    | "tcp" => .ok ⟨.tcp, address⟩
    | "udp" => .error .unfitProtocol
    | _ => .error .unknownProtocol

/-! ## Paths -/

/-- Bytes that a path may have. -/
def maxPath : Nat := 107

/-- The fault of a path, if any. -/
def pathFault? (path : List Char) : Option SocketFault :=
  if maxPath < (String.ofList path).utf8ByteSize then some .pathTooLong
  else if path = ['@'] then some .malformed
  else none

/-- The directory of a path; a name alone has none. -/
def directory? (path : List Char) : Option String :=
  match path.reverse.dropWhile (· ≠ '/') with
  | [] => none
  | _ :: parent => some (String.ofList parent.reverse)

/-! ## Hosts and services -/

/-- The host and the number of the service around the last colon. -/
def hostService? (address : List Char) : Option (List Char × List Char) :=
  match address.reverse.span (· ≠ ':') with
  | (_, []) => none
  | (service, _ :: host) => some (host.reverse, service.reverse)

/-- May a character stand in an address to connect to? -/
def isAddressChar (c : Char) : Bool := c.isAlphanum || ".-:%;[]_*".toList.contains c

/-- Can an address be connected to? -/
def isRemote (address : List Char) : Bool :=
  address.head?.any (fun c => c.isAlphanum || c = '[' || c = ':') && address.all isAddressChar &&
    ((hostService? address).bind (·.2.head?)).any Char.isDigit

/-- Does a text name a service to bind to? A number is read as far as it goes. -/
def isLocalService (service : List Char) : Bool :=
  service = ['*'] || service = ['0'] ||
    Digits.toNat (service.takeWhile Char.isDigit) % 65536 ≠ 0

/-- Is a host given by a number? -/
def isNumericHost (host : List Char) : Bool :=
  !host.isEmpty && host.all fun c => c.isDigit || c = '.'

/-- The fault of an address to bind to, if any. A numeric host is taken for one of the machine's
own. -/
def localFault? (address : List Char) : Option SocketFault :=
  match hostService? address with
  | none => some .malformed
  | some (host, service) =>
    if ¬ isLocalService service then some .malformed
    else if host = ['*'] ∨ host = ['l', 'o'] ∨ isNumericHost host then none
    else some .noDevice

/-! ## Connecting and binding -/

/-- Why a subscriber cannot connect, if it cannot. -/
def connectFault? (s : String) : Option SocketFault :=
  match ofText s with
  | .error f => some f
  | .ok ⟨.inproc, _⟩ => none
  | .ok ⟨.ipc, path⟩ => pathFault? path
  | .ok ⟨.tcp, address⟩ => if isRemote address then none else some .malformed

/-- Why a publisher cannot be bound, if it cannot, given which directories exist. -/
def bindFault? (isDirectory : String → Bool) (s : String) : Option SocketFault :=
  match ofText s with
  | .error f => some f
  | .ok ⟨.inproc, _⟩ => none
  | .ok ⟨.ipc, path⟩ =>
    match pathFault? path with
    | some f => some f
    | none =>
      if path.head? = some '@' ∨ (directory? path).all (fun d => d.isEmpty || isDirectory d) then none
      else some .noDirectory
  | .ok ⟨.tcp, address⟩ => localFault? address

end Endpoint

end BoomWalker
