import Fasst.Ssh.Config
import Fasst.Go.Strings

/-!
# Fasst.Ssh.ClientConn — `NewClientConn` and `clientHandshake` up to the first key exchange

`NewClientConn` (`client.go`, lines 69–84) defaults a copy of the caller's configuration and runs
`clientHandshake` (lines 86–165): it picks the client's version string, exchanges versions, fills
the `ConnLog`'s endpoint records from the two version strings, and builds the client transport
(`newClientTransport`, `common.go` lines 496–510), whose key exchanges are the step relation of
`Fasst.Ssh.Handshake.Step`.  Go strings are their bytes here, and `strings.SplitN` splits them at
a byte.

* `endpointId_identString`: the endpoint record of an identification string
  `SSH-protoversion-softwareversion SP comments` gives back its three parts, for every protocol
  version free of `-` and spaces and every software version free of spaces;
* `newClientConn_eq_ok`: the transport is a client's, with the defaulted configuration and the
  caller's host-key algorithms (`supportedHostKeyAlgos` when `nil`).
-/

namespace Fasst.Ssh

open Fasst.Go (splitN splitN_append splitN_of_not_mem splitN_one)

/-! ## The endpoint records of the `ConnLog` -/

/-- Modelled from the spec: the fields of `EndpointId` (`log.go`, not in src/) that
`clientHandshake` sets. -/
structure EndpointId where
  raw : List UInt8
  protoVersion : List UInt8
  softwareVersion : List UInt8
  comment : List UInt8
  deriving DecidableEq, Repr

/-- Modelled from the spec: the two endpoint records of `HandshakeLog` (`log.go`, not in src/);
`clientHandshake` touches no other field. -/
structure HandshakeLog where
  serverID : Option EndpointId
  clientID : Option EndpointId
  deriving DecidableEq, Repr

def sshPrefix : List UInt8 := [0x53, 0x53, 0x48]

/-- The block of `clientHandshake` that fills a `new(EndpointId)` from a version string, the same
for `ServerID` and `ClientID`: `Raw`, the `Comment` after the first space, and, when the part
before it starts with the field `SSH`, the `-`-separated protocol and software versions. -/
def endpointId (version : List UInt8) : EndpointId :=
  let splitId := splitN 0x20 2 version
  let comment := if splitId.length = 2 then splitId.getD 1 [] else []
  let splitGroup := splitN 0x2D 3 (splitId.getD 0 [])
  if splitGroup.getD 0 [] = sshPrefix then
    { raw := version, comment := comment,
      protoVersion := if splitGroup.length > 1 then splitGroup.getD 1 [] else [],
      softwareVersion := if splitGroup.length = 3 then splitGroup.getD 2 [] else [] }
  else { raw := version, comment := comment, protoVersion := [], softwareVersion := [] }

/-- An identification string as the SSH transport protocol writes it:
`SSH-protoversion-softwareversion`, then a space and the comments when there are any. -/
def identString (proto software : List UInt8) (comments : Option (List UInt8)) : List UInt8 :=
  sshPrefix ++ 0x2D :: (proto ++ 0x2D :: software) ++
    match comments with
    | none => []
    | some c => 0x20 :: c

/-- **The `ConnLog` records an identification string's parts.** For every protocol version free
of `-` and spaces, every software version free of spaces and any comments (or none), the endpoint
record of `SSH-protoversion-softwareversion[ SP comments]` keeps the whole string as `Raw` and gives
back the protocol version, the software version and the comments (empty when there are none). -/
theorem endpointId_identString {proto software : List UInt8} (comments : Option (List UInt8))
    (hp : 0x2D ∉ proto) (hps : 0x20 ∉ proto) (hs : 0x20 ∉ software) :
    endpointId (identString proto software comments) =
      ⟨identString proto software comments, proto, software, comments.getD []⟩ := by
  have hid : (0x20 : UInt8) ∉ sshPrefix ++ 0x2D :: (proto ++ 0x2D :: software) := by
    simp [sshPrefix, hps, hs]
  have hgroup : splitN 0x2D 3 (sshPrefix ++ 0x2D :: (proto ++ 0x2D :: software)) =
      [sshPrefix, proto, software] := by
    rw [splitN_append (by decide), splitN_append hp]
    rfl
  cases comments with
  | none => simp [identString, endpointId, splitN_of_not_mem hid, hgroup]
  | some c =>
    have hv : identString proto software (some c) =
        (sshPrefix ++ 0x2D :: (proto ++ 0x2D :: software)) ++ 0x20 :: c := by
      simp [identString]
    rw [hv]
    simp only [endpointId, splitN_append hid 0]
    simp [hgroup]

theorem endpointId_identString_openssh :
    (0x2D : UInt8) ∉ [0x32, 0x2E, 0x30] ∧ (0x20 : UInt8) ∉ [0x32, 0x2E, 0x30] ∧
      (0x20 : UInt8) ∉ [0x4F, 0x70, 0x65, 0x6E, 0x53, 0x53, 0x48, 0x5F, 0x39, 0x2E, 0x36] ∧
      endpointId (identString [0x32, 0x2E, 0x30]
          [0x4F, 0x70, 0x65, 0x6E, 0x53, 0x53, 0x48, 0x5F, 0x39, 0x2E, 0x36] (some [0x78])) =
        ⟨identString [0x32, 0x2E, 0x30]
            [0x4F, 0x70, 0x65, 0x6E, 0x53, 0x53, 0x48, 0x5F, 0x39, 0x2E, 0x36] (some [0x78]),
          [0x32, 0x2E, 0x30], [0x4F, 0x70, 0x65, 0x6E, 0x53, 0x53, 0x48, 0x5F, 0x39, 0x2E, 0x36],
          [0x78]⟩ :=
  ⟨by decide, by decide, by decide, endpointId_identString _ (by decide) (by decide) (by decide)⟩

/-! ## The client transport -/

/-- Modelled from the spec: the host-key algorithm names of `keys.go` and `certs.go` (not in
src/), as registered for SSH, in the order of `supportedHostKeyAlgos`. -/
def supportedHostKeyAlgos : List String :=
  ["ssh-rsa-cert-v01@openssh.com", "ssh-dss-cert-v01@openssh.com",
    "ecdsa-sha2-nistp256-cert-v01@openssh.com", "ecdsa-sha2-nistp384-cert-v01@openssh.com",
    "ecdsa-sha2-nistp521-cert-v01@openssh.com", "ssh-ed25519-cert-v01@openssh.com",
    "ecdsa-sha2-nistp256", "ecdsa-sha2-nistp384", "ecdsa-sha2-nistp521", "ssh-rsa", "ssh-dss",
    "ssh-ed25519"]

/-- The fields of `ClientConfig` that `NewClientConn` and `clientHandshake` read; `ConnLog` and
`Verbose` are fields of the embedded `Config`.  `User`, `Auth`, `BannerCallback`, `Timeout` and
`DontAuthenticate` are read only by authentication and `Dial`. -/
structure ClientConfig where
  config : UserConfig
  connLog : Option HandshakeLog
  verbose : Bool
  clientVersion : List UInt8
  hostKeyAlgorithms : Option (List String)
  hostKeyCallback : Option (String → String → PublicKey → Option String)

def newClientTransport (clientVersion serverVersion : List UInt8) (config : ClientConfig)
    (dialAddr addr : String) : Transport where
  config := config.config.toConfig
  serverVersion := serverVersion
  clientVersion := clientVersion
  hostKeys := []
  hostKeyAlgorithms := config.hostKeyAlgorithms.getD supportedHostKeyAlgos
  hostKeyCallback := config.hostKeyCallback
  dialAddress := dialAddr
  remoteAddr := addr

def logVersions (connLog : Option HandshakeLog) (verbose : Bool)
    (clientVersion serverVersion : List UInt8) : Option HandshakeLog :=
  connLog.map fun log =>
    let log := { log with serverID := some (endpointId serverVersion) }
    if verbose then { log with clientID := some (endpointId clientVersion) } else log

/-- `clientHandshake` up to `requestInitialKeyChange`: `packageVersion` (`transport.go`, not in
src/) is the default version string and `exchangeVersions` (not in src/) the connection's answer
to the client's.  It returns the filled `ConnLog` and the transport; `HelloOnly` stops there, and
otherwise the first key exchange is `requestInitialKeyChange` on that transport. -/
def clientHandshake (packageVersion : List UInt8)
    (exchangeVersions : List UInt8 → Except String (List UInt8)) (dialAddress addr : String)
    (config : ClientConfig) : Except String (Option HandshakeLog × Transport) := do
  let clientVersion := if config.clientVersion ≠ [] then config.clientVersion else packageVersion
  let serverVersion ← exchangeVersions clientVersion
  return (logVersions config.connLog config.verbose clientVersion serverVersion,
    newClientTransport clientVersion serverVersion config dialAddress addr)

/-- `NewClientConn` up to the first key exchange: `SetDefaults` on a copy of the configuration,
then `clientHandshake`, whose error is wrapped. -/
def newClientConn (packageVersion : List UInt8) (cipherModes : String → Bool)
    (exchangeVersions : List UInt8 → Except String (List UInt8)) (addr remoteAddr : String)
    (config : ClientConfig) : Except String (Option HandshakeLog × Transport) :=
  match clientHandshake packageVersion exchangeVersions addr remoteAddr
      { config with config := config.config.setDefaults cipherModes } with
  | .error e => .error ("ssh: handshake failed: " ++ e)
  | .ok r => .ok r

/-- What `NewClientConn` builds, when the version exchange answers `serverVersion`: the `ConnLog`
records the server's (and, verbose, the client's) identification, and the transport is a client's
with the defaulted configuration, the caller's host-key algorithms (`supportedHostKeyAlgos` when
`nil`) and the version strings. -/
theorem newClientConn_eq_ok {packageVersion serverVersion : List UInt8}
    {cipherModes : String → Bool} {exchangeVersions : List UInt8 → Except String (List UInt8)}
    {addr remoteAddr : String} {config : ClientConfig}
    (hx : exchangeVersions (if config.clientVersion ≠ [] then config.clientVersion
      else packageVersion) = .ok serverVersion) :
    newClientConn packageVersion cipherModes exchangeVersions addr remoteAddr config =
      .ok (logVersions config.connLog config.verbose
          (if config.clientVersion ≠ [] then config.clientVersion else packageVersion)
          serverVersion,
        { config := (config.config.setDefaults cipherModes).toConfig,
          serverVersion := serverVersion,
          clientVersion :=
            if config.clientVersion ≠ [] then config.clientVersion else packageVersion,
          hostKeys := [],
          hostKeyAlgorithms := config.hostKeyAlgorithms.getD supportedHostKeyAlgos,
          hostKeyCallback := config.hostKeyCallback,
          dialAddress := addr, remoteAddr := remoteAddr }) := by
  simp only [newClientConn, clientHandshake, hx, bind, Except.bind, pure, Except.pure]
  rfl

end Fasst.Ssh
