import LoveApi.Go

/-!
# The protection against server-side request forgery

`ValidateURL` checks the scheme, the port, the host name and the addresses of a URL before it is fetched.
-/

namespace LoveApi

open Go

/-! ### Addresses and networks -/

inductive IP
  | v4 (x : Fin (2 ^ 32))
  | v6 (x : Fin (2 ^ 128))
deriving DecidableEq, Repr

namespace IP

variable (ip : IP)

/-- `To4`: the address as an IPv4 address, if it is one or is mapped to one. -/
def to4 : Option (Fin (2 ^ 32)) :=
  match ip with
  | .v4 x => some x
  | .v6 x => if x.val / 2 ^ 32 = 0xffff then some ⟨x.val % 2 ^ 32, Nat.mod_lt _ (by decide)⟩ else none

def canonical : IP :=
  match ip.to4 with
  | some x => .v4 x
  | none => ip

def equal (other : IP) : Bool := ip.canonical = other.canonical

def isUnspecified : Bool := ip.equal (.v4 0) || ip.equal (.v6 0)

def isLoopback : Bool :=
  match ip.canonical with
  | .v4 x => x.val / 2 ^ 24 = 127
  | .v6 x => x.val = 1

def isLinkLocalUnicast : Bool :=
  match ip.canonical with
  | .v4 x => x.val / 2 ^ 16 = 0xa9fe
  | .v6 x => x.val / 2 ^ 118 = 0x3fa

def isLinkLocalMulticast : Bool :=
  match ip.canonical with
  | .v4 x => x.val / 2 ^ 8 = 0xe00000
  | .v6 x => x.val / 2 ^ 120 = 0xff && x.val / 2 ^ 112 % 16 = 2

def isInterfaceLocalMulticast : Bool :=
  match ip with
  | .v4 _ => false
  | .v6 x => x.val / 2 ^ 120 = 0xff && x.val / 2 ^ 112 % 16 = 1

def isPrivate : Bool :=
  match ip.canonical with
  | .v4 x => x.val / 2 ^ 24 = 10 || x.val / 2 ^ 20 = 0xac1 || x.val / 2 ^ 16 = 0xc0a8
  | .v6 x => x.val / 2 ^ 121 = 0x7e

end IP

structure IPNet where
  ip : IP
  ones : Nat
deriving DecidableEq, Repr

/-- `Contains`: an IPv6 network of mapped addresses is one of IPv4 addresses, with the end of its mask. -/
def IPNet.contains (net : IPNet) (ip : IP) : Bool :=
  let ones :=
    match net.ip with
    | .v4 _ => net.ones
    | .v6 _ => if net.ip.to4.isSome then net.ones - 96 else net.ones
  match net.ip.canonical, ip.canonical with
  | .v4 n, .v4 x => x.val / 2 ^ (32 - ones) = n.val / 2 ^ (32 - ones)
  | .v6 n, .v6 x => x.val / 2 ^ (128 - ones) = n.val / 2 ^ (128 - ones)
  | _, _ => false

def ipv4Net (a b c d ones : Nat) : IPNet := ⟨.v4 (Fin.ofNat _ (a * 2 ^ 24 + b * 2 ^ 16 + c * 2 ^ 8 + d)), ones⟩

def ipv6Net (top ones : Nat) : IPNet := ⟨.v6 (Fin.ofNat _ top), ones⟩

def privateIPv4Nets : List IPNet :=
  [ipv4Net 0 0 0 0 8, ipv4Net 10 0 0 0 8, ipv4Net 100 64 0 0 10, ipv4Net 127 0 0 0 8, ipv4Net 169 254 0 0 16,
    ipv4Net 172 16 0 0 12, ipv4Net 192 0 0 0 24, ipv4Net 192 0 2 0 24, ipv4Net 192 168 0 0 16, ipv4Net 198 18 0 0 15,
    ipv4Net 198 51 100 0 24, ipv4Net 203 0 113 0 24, ipv4Net 224 0 0 0 4, ipv4Net 240 0 0 0 4,
    ipv4Net 255 255 255 255 32]

/-- The networks `::/128`, `::1/128`, `::ffff:0:0/96`, `64:ff9b::/96`, `100::/64`, `2001::/23`, `2001:db8::/32`,
`fc00::/7`, `fe80::/10` and `ff00::/8`. -/
def privateIPv6Nets : List IPNet :=
  [ipv6Net 0 128, ipv6Net 1 128, ipv6Net (0xffff * 2 ^ 32) 96, ipv6Net (0x64ff9b * 2 ^ 96) 96,
    ipv6Net (0x100 * 2 ^ 112) 64, ipv6Net (0x2001 * 2 ^ 112) 23, ipv6Net (0x20010db8 * 2 ^ 96) 32,
    ipv6Net (0xfc00 * 2 ^ 112) 7, ipv6Net (0xfe80 * 2 ^ 112) 10, ipv6Net (0xff00 * 2 ^ 112) 8]

def isPrivateIP (ip : IP) : Bool :=
  if ip.isUnspecified then true
  else if ip.isLoopback || ip.isLinkLocalUnicast || ip.isLinkLocalMulticast then true
  else if ip.isInterfaceLocalMulticast then true
  else
    match ip.to4 with
    | some v4 => privateIPv4Nets.any fun net => net.contains (.v4 v4)
    | none => privateIPv6Nets.any (fun net => net.contains ip) || ip.isPrivate

/-! ### The host of a URL -/

def cutLast (c : Char) : List Char → Option (List Char × List Char)
  | [] => none
  | x :: s =>
    match cutLast c s with
    | some (before, after) => some (x :: before, after)
    | none => if x = c then some ([], s) else none

/-- The text before the first occurrence of a character, and the text after it. -/
def cutFirst (c : Char) : List Char → Option (List Char × List Char)
  | [] => none
  | x :: s => if x = c then some ([], s) else (cutFirst c s).map fun cut => (x :: cut.1, cut.2)

def splitHostPort (hostport : List Char) : Except String (List Char × List Char) :=
  match cutLast ':' hostport with
  | none => .error "missing port in address"
  | some (host, port) =>
    match hostport with
    | '[' :: rest =>
      match cutFirst ']' rest with
      | none => .error "missing ']' in address"
      | some (inner, after) =>
        if after = [] then .error "missing port in address"
        else if after ≠ ':' :: port then
          if after.head? = some ':' then .error "too many colons in address" else .error "missing port in address"
        else if '[' ∈ rest then .error "unexpected '[' in address"
        else if ']' ∈ after then .error "unexpected ']' in address"
        else .ok (inner, port)
    | _ =>
      if ':' ∈ host then .error "too many colons in address"
      else if '[' ∈ hostport then .error "unexpected '[' in address"
      else if ']' ∈ hostport then .error "unexpected ']' in address"
      else .ok (host, port)

def validOptionalPort : List Char → Bool
  | [] => true
  | ':' :: digits => digits.all Char.isDigit
  | _ => false

def validHost (host : List Char) : Bool :=
  match host with
  | '[' :: _ =>
    match cutLast ']' host with
    | none => false
    | some (_, colonPort) => validOptionalPort colonPort
  | _ =>
    match cutLast ':' host with
    | none => true
    | some (_, port) => validOptionalPort (':' :: port)

structure ParsedURL where
  scheme : String
  host : List Char
  valid : validHost host

namespace ParsedURL

variable (u : ParsedURL)

def hostnamePort : List Char × List Char :=
  let (host, port) :=
    match cutLast ':' u.host with
    | some (host, port) => if validOptionalPort (':' :: port) then (host, port) else (u.host, [])
    | none => (u.host, [])
  if host.head? = some '[' ∧ host.getLast? = some ']' then (host.tail.dropLast, port) else (host, port)

def hostname : String := String.ofList u.hostnamePort.1

def port : String := String.ofList u.hostnamePort.2

end ParsedURL

/-! ### The checks -/

structure SSRFLibraries where
  parseURL : String → Except String ParsedURL
  parseIP : String → Option IP
  parseCIDR : String → Option IPNet
  lookupIP : String → Except String (List IP)
  toLower : String → String := toLower
  ipString : IP → String := fun _ => ""

structure SSRFProtection where
  allowPrivateIp : Bool := false
  domainFilterMode : Bool := true
  domainList : List String := []
  ipFilterMode : Bool := true
  ipList : List String := []
  allowedPorts : List Int := []
  applyIPFilterForDomain : Bool := false
deriving DecidableEq, Repr

section Checks

variable (lib : SSRFLibraries)

def matchesItem (domain item : String) : Bool :=
  let item := lib.toLower (trimSpace item)
  if item = "" then false
  else domain = item ||
    (hasPrefix item "*." && (hasSuffix domain ("." ++ trimPrefix item "*.") || domain = trimPrefix item "*."))

def isDomainListed (domain : String) (list : List String) : Bool :=
  list.any fun item => matchesItem lib (lib.toLower domain) item

def isIpInCIDRList (ip : IP) (cidrList : List String) : Bool :=
  cidrList.any fun cidr =>
    match lib.parseCIDR cidr with
    | none =>
      match lib.parseIP cidr with
      | some whitelistIP => ip.equal whitelistIP
      | none => false
    | some network => network.contains ip

namespace SSRFProtection

variable (p : SSRFProtection)

def isAllowedPort (port : Int) : Bool := p.allowedPorts = [] || port ∈ p.allowedPorts

def isDomainAllowed (domain : String) : Bool :=
  if p.domainFilterMode then isDomainListed lib domain p.domainList else !isDomainListed lib domain p.domainList

def isIPAccessAllowed (ip : IP) : Bool :=
  if isPrivateIP ip && !p.allowPrivateIp then false
  else if p.ipFilterMode then isIpInCIDRList lib ip p.ipList
  else !isIpInCIDRList lib ip p.ipList

/-- The error for an address that is not allowed; `resolved` names the host that resolves to it. -/
def ipError (ip : IP) (resolved : String) : String :=
  if isPrivateIP ip && !p.allowPrivateIp then "private IP address not allowed: " ++ resolved ++ lib.ipString ip
  else if p.ipFilterMode then "ip not in whitelist: " ++ resolved ++ lib.ipString ip
  else "ip in blacklist: " ++ resolved ++ lib.ipString ip

/-- The check of a literal address; its error does not ask whether private addresses are allowed. -/
def validateIP (ip : IP) : Except String Unit :=
  if p.isIPAccessAllowed lib ip then .ok ()
  else if isPrivateIP ip then .error ("private IP address not allowed: " ++ lib.ipString ip)
  else .error (p.ipError lib ip "")

def validateDomain (host : String) : Except String Unit :=
  if !p.isDomainAllowed lib host then
    if p.domainFilterMode then .error ("domain not in whitelist: " ++ host)
    else .error ("domain in blacklist: " ++ host)
  else if !p.applyIPFilterForDomain then .ok ()
  else
    match lib.lookupIP host with
    | .error err => .error ("DNS resolution failed for " ++ host ++ ": " ++ err)
    | .ok ips =>
      match ips.find? fun ip => !p.isIPAccessAllowed lib ip with
      | some ip => .error (p.ipError lib ip (host ++ " resolves to "))
      | none => .ok ()

def defaultPort (scheme : String) : String := if scheme = "https" then "443" else "80"

def validateURL (urlStr : String) : Except String Unit :=
  match lib.parseURL urlStr with
  | .error err => .error ("invalid URL format: " ++ err)
  | .ok u =>
    if u.scheme ≠ "http" ∧ u.scheme ≠ "https" then
      .error ("unsupported protocol: " ++ u.scheme ++ " (only http/https allowed)")
    else
      let (host, portStr) :=
        match splitHostPort u.host with
        | .ok (host, port) => (String.ofList host, String.ofList port)
        | .error _ => (u.hostname, defaultPort u.scheme)
      match atoi portStr with
      | none => .error ("invalid port: " ++ portStr)
      | some port =>
        if !p.isAllowedPort port then .error ("port " ++ toString port ++ " is not allowed")
        else
          match lib.parseIP host with
          | some ip => p.validateIP lib ip
          | none => p.validateDomain lib host

end SSRFProtection

end Checks

end LoveApi
