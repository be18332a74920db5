/-
`server/src/wireguard.rs`: the peers of the WireGuard interface, and the `wg set` commands that edit
them. A command that fails changes nothing.
-/
import Civ6LanBridge.Protocol.Ids

namespace Civ6LanBridge

open Std FinMap

inductive WireGuardError
  | invalidPublicKey
  | commandFailed (stderr : String)
  | io
  | invalidOutput
deriving DecidableEq

/-- The peers of the interface by public key, each with the address it is allowed, if any. -/
@[ext] structure WireGuard where
  allowedIp : ExtTreeMap String (Option VirtualIp)

namespace WireGuard

def empty : WireGuard := { allowedIp := ∅ }

/-- `base64` decodes with the standard alphabet. -/
def validatePublicKey (base64 : String → Option (List UInt8)) (publicKey : String) : Except WireGuardError Unit :=
  match base64 publicKey with
  | none => .error .invalidPublicKey
  | some decoded => if decoded.length = 32 then .ok () else .error .invalidPublicKey

/-- `wg set … peer K allowed-ips A/32`: the address moves to `K` from whichever peer had it. -/
def setPeer (wg : WireGuard) (publicKey : String) (virtualIp : VirtualIp) : WireGuard where
  allowedIp := (wg.allowedIp.map fun _ ip => ip.filter (· ≠ virtualIp)).insert publicKey (some virtualIp)

/-- `wg set … peer K remove`. -/
def unsetPeer (wg : WireGuard) (publicKey : String) : WireGuard where
  allowedIp := wg.allowedIp.erase publicKey

/-- `failure` is the error of the command, if it fails. -/
def addPeer (base64 : String → Option (List UInt8)) (failure : Option WireGuardError) (wg : WireGuard)
    (publicKey : String) (virtualIp : VirtualIp) : Except WireGuardError WireGuard :=
  match validatePublicKey base64 publicKey, failure with
  | .error e, _ => .error e
  | .ok (), some e => .error e
  | .ok (), none => .ok (wg.setPeer publicKey virtualIp)

def removePeer (base64 : String → Option (List UInt8)) (failure : Option WireGuardError) (wg : WireGuard)
    (publicKey : String) : Except WireGuardError WireGuard :=
  match validatePublicKey base64 publicKey, failure with
  | .error e, _ => .error e
  | .ok (), some e => .error e
  | .ok (), none => .ok (wg.unsetPeer publicKey)

end WireGuard

end Civ6LanBridge
