import AliasSync.Text.Split
import AliasSync.Url.Host

/-! Addresses to listen on: an IP address and a port. -/

namespace AliasSync

open AliasSync.Text (cutAtLast number?)

inductive SocketAddress where
  | ipv4 (address port : Nat)
  | ipv6 (pieces : List Nat) (zone port : Nat)
  deriving DecidableEq, Repr

namespace SocketAddress

/-- A port, with any number of leading zeros. -/
def port? (digits : List Char) : Option Nat := (number? 10 digits).filter (· < UInt16.size)

def ipv4? (text : List Char) : Option Nat := do
  match ← (text.splitOn '.').mapM Url.decimalByte? with
  | [a, b, c, d] => pure (((a * 256 + b) * 256 + c) * 256 + d)
  | _ => none

def zoned? (text : List Char) : Option (List Nat × Nat) :=
  match cutAtLast '%' text with
  | none => (Url.ipv6? text).map (·, 0)
  | some (address, zone) => do
    let zone ← (number? 10 zone).filter (· < UInt32.size)
    pure (← Url.ipv6? address, zone)

/-- Reads an address. An IPv6 address stands in brackets. -/
def parse? (text : String) : Option SocketAddress := do
  let (host, port) ← cutAtLast ':' text.toList
  let port ← port? port
  match host with
  | '[' :: inner =>
    guard (inner.getLast? = some ']')
    let (pieces, zone) ← zoned? inner.dropLast
    pure (.ipv6 pieces zone port)
  | _ => pure (.ipv4 (← ipv4? host) port)

/-- An IPv6 address that stands for one of IPv4 ends like that one. -/
def ipv6Text (pieces : List Nat) : String :=
  match pieces with
  | [0, 0, 0, 0, 0, 65535, high, low] => "::ffff:" ++ Url.ipv4Text (high * 65536 + low)
  | _ => Url.ipv6Text pieces

def text : SocketAddress → String
  | ipv4 address port => Url.ipv4Text address ++ ":" ++ toString port
  | ipv6 pieces zone port =>
    "[" ++ ipv6Text pieces ++ (if zone = 0 then "" else "%" ++ toString zone) ++ "]:" ++ toString port

end SocketAddress

end AliasSync
