import Fasst.Ssh.Negotiate

/-!
# Fasst.Ssh.Handshake.Defs — the data of `handshakeTransport` (`common.go`, lines 427–890)

The packet, the key-exchange result and the magics; the fields of `handshakeTransport` fixed at
construction (`Transport`) and those that change (`HState`), with one program counter for the
read loop (`LPc`) and one for every other goroutine calling into the transport (`UPc`).  The
collaborators that are not in src/ (the message codec of `messages.go`, key parsing and
signature checking of `keys.go`, the registry `kexAlgoMap` of `kex.go`) are the fields of
`Ext`; the underlying `keyingTransport` and the key-exchange methods are the environment of the
step relation (`Fasst.Ssh.Handshake.Step`), which may answer each of their calls in any way.

The deterministic pieces of `enterKeyExchangeLocked` are functions here: the KEXINIT that
`sendKexInitLocked` builds, the negotiation (`Transport.negotiate`), the host-key choice of
`server` and the checks of `client`.
-/

namespace Fasst.Ssh

instance instDecidableEqExcept {ε α : Type} [DecidableEq ε] [DecidableEq α] :
    DecidableEq (Except ε α)
  | .error x, .error y => decidable_of_iff (x = y) (by simp)
  | .ok x, .ok y => decidable_of_iff (x = y) (by simp)
  | .error _, .ok _ => isFalse Except.noConfusion
  | .ok _, .error _ => isFalse Except.noConfusion

/-! ## Packets, results and collaborators -/

/-- Modelled from the spec: the message numbers of `messages.go` (not in src/), as the SSH
transport protocol assigns them. -/
def msgIgnore : UInt8 := 2

def msgDebug : UInt8 := 4

def msgKexInit : UInt8 := 20

def msgNewKeys : UInt8 := 21

/-- A packet of the transport layer: its message number `p[0]` and the rest.  Every packet the
source indexes is non-empty, so the type has no empty packet. -/
structure Packet where
  tag : UInt8
  body : List UInt8
  deriving DecidableEq, Repr

def Packet.len (p : Packet) : Nat := p.body.length + 1

def unexpectedMessageError (expected got : UInt8) : String :=
  "ssh: unexpected message type " ++ toString got ++ " (expected " ++ toString expected ++ ")"

structure PublicKey where
  type : String
  blob : List UInt8
  deriving DecidableEq, Repr

structure Signer where
  publicKey : PublicKey
  deriving DecidableEq, Repr

/-- `kexResult`: exchange hash `H`, shared secret `K`, host key, signature and session id. -/
structure KexResult where
  h : List UInt8
  k : List UInt8
  hostKey : List UInt8
  signature : List UInt8
  sessionID : List UInt8
  deriving DecidableEq, Repr

structure HandshakeMagics where
  clientVersion : List UInt8
  serverVersion : List UInt8
  clientKexInit : Packet
  serverKexInit : Packet
  deriving DecidableEq, Repr

/-- The package functions outside src/ that the handshake calls: `Marshal`/`Unmarshal` of a
`KexInitMsg` (`marshal` gives the bytes after the message number), `ParsePublicKey`,
`parseSignatureBody` (the signature and the trailing bytes, `none` when not `ok`), a key's
`Verify`, and whether `kexAlgoMap` has an entry for a name. -/
structure Ext where
  marshal : KexInitMsg → List UInt8
  unmarshal : Packet → Except String KexInitMsg
  parsePublicKey : List UInt8 → Except String PublicKey
  parseSignatureBody : List UInt8 → Option (List UInt8 × List UInt8)
  verify : PublicKey → List UInt8 → List UInt8 → Option String
  kexAlgoMap : String → Bool

structure Config where
  rekeyThreshold : Nat
  keyExchanges : List String
  ciphers : List String
  macs : List String
  helloOnly : Bool

/-- The fields of `handshakeTransport` fixed at construction: `hostKeys` is non-empty for a
server, `hostKeyAlgorithms` is what a client accepts. -/
structure Transport where
  config : Config
  serverVersion : List UInt8
  clientVersion : List UInt8
  hostKeys : List Signer
  hostKeyAlgorithms : List String
  hostKeyCallback : Option (String → String → PublicKey → Option String)
  dialAddress : String
  remoteAddr : String

def supportedCompressions : List String := ["none"]

def kexInitPacket (ext : Ext) (m : KexInitMsg) : Packet := ⟨msgKexInit, ext.marshal m⟩

def errorOf {α : Type} : Except String α → Option String
  | .error e => some e
  | .ok _ => none

/-- `packet[0] != msgNewKeys` after a read, in `sendKexInit` and `enterKeyExchangeLocked`. -/
def expectNewKeys : Except String Packet → Option String
  | .error e => some e
  | .ok p => if p.tag = msgNewKeys then none else some (unexpectedMessageError msgNewKeys p.tag)

/-! ## The deterministic parts of the key exchange -/

namespace Transport

variable (T : Transport) (ext : Ext)

/-- The KEXINIT that `sendKexInitLocked` builds around a cookie read from `rand.Reader`. -/
def kexInitMsg (cookie : List UInt8) : KexInitMsg where
  cookie := cookie
  kexAlgos := T.config.keyExchanges
  serverHostKeyAlgos :=
    if T.hostKeys.length > 0 then T.hostKeys.map (·.publicKey.type) else T.hostKeyAlgorithms
  ciphersClientServer := T.config.ciphers
  ciphersServerClient := T.config.ciphers
  macsClientServer := T.config.macs
  macsServerClient := T.config.macs
  compressionClientServer := supportedCompressions
  compressionServerClient := supportedCompressions
  firstKexFollows := false

/-- `sendKexInitLocked`: with a KEXINIT outstanding (`sent`), return it; otherwise build one and
hand it to `conn.writePacket`, which answers `o`; only a written one becomes `sentInitMsg`.
Returns the message (or the error) and the new `sentInitMsg`. -/
def sendKexInitLocked (sent : Option KexInitMsg) (cookie : List UInt8) (o : Option String) :
    Except String KexInitMsg × Option KexInitMsg :=
  match sent, o with
  | some m, _ => (.ok m, some m)
  | none, none => (.ok (T.kexInitMsg cookie), some (T.kexInitMsg cookie))
  | none, some e => (.error e, none)

@[simp] theorem sendKexInitLocked_none (sent : Option KexInitMsg) (cookie : List UInt8) :
    T.sendKexInitLocked sent cookie none =
      (.ok (sent.getD (T.kexInitMsg cookie)), some (sent.getD (T.kexInitMsg cookie))) := by
  cases sent <;> rfl

/-- What `enterKeyExchangeLocked` computes before the key-exchange method runs. -/
structure Negotiated where
  clientInit : KexInitMsg
  serverInit : KexInitMsg
  magics : HandshakeMagics
  algs : Algorithms
  -- the peer sent a guessed packet for another kex or host-key algorithm
  discard : Bool
  deriving DecidableEq, Repr

/-- `Unmarshal` of the peer's KEXINIT, the magics and the two inits placed by role
(`len(t.hostKeys) == 0` is the client), `findAgreedAlgorithms`, and the
`FirstKexFollows` test. -/
def negotiate (myInit : KexInitMsg) (otherInitPacket : Packet) : Except String Negotiated := do
  let otherInit ← ext.unmarshal otherInitPacket
  let magics : HandshakeMagics :=
    ⟨T.clientVersion, T.serverVersion, otherInitPacket, kexInitPacket ext myInit⟩
  let (clientInit, serverInit, magics) :=
    if T.hostKeys.length = 0 then
      (myInit, otherInit,
        { magics with clientKexInit := kexInitPacket ext myInit, serverKexInit := otherInitPacket })
    else (otherInit, myInit, magics)
  let algs ← findAgreedAlgorithms clientInit serverInit
  return ⟨clientInit, serverInit, magics, algs,
    otherInit.firstKexFollows && (clientInit.kexAlgos.head? != serverInit.kexAlgos.head? ||
      clientInit.serverHostKeyAlgos.head? != serverInit.serverHostKeyAlgos.head?)⟩

/-- `server`'s host key: the last of `hostKeys` whose `Type()` is the agreed name. -/
def selectHostKey (name : String) : Option Signer :=
  T.hostKeys.foldl (fun hostKey k => if name = k.publicKey.type then some k else hostKey) none

end Transport

def verifyHostKeySignature (ext : Ext) (hostKey : PublicKey) (result : KexResult) :
    Option String :=
  match ext.parseSignatureBody result.signature with
  | some (sig, rest) =>
    if rest.length > 0 then some "ssh: signature parse error" else ext.verify hostKey result.h sig
  | none => some "ssh: signature parse error"

namespace Transport

variable (T : Transport) (ext : Ext)

/-- `client` after `kex.Client` returned `result`: parse the host key, check its signature
over `H`, then ask `hostKeyCallback`. -/
def client (result : KexResult) : Except String KexResult := do
  let hostKey ← ext.parsePublicKey result.hostKey
  match verifyHostKeySignature ext hostKey result with
  | some e => throw e
  | none =>
    match T.hostKeyCallback with
    | some cb =>
      match cb T.dialAddress T.remoteAddr hostKey with
      | some e => throw e
      | none => return result
    | none => return result

/-- The result of `t.server` or `t.client` once the key-exchange method returned `result`. -/
def finish (result : KexResult) : Except String KexResult :=
  if T.hostKeys.length > 0 then .ok result else T.client ext result

end Transport

/-! ## Program counters and state -/

inductive Actor (ι : Type)
  | loop
  | user (i : ι)
  deriving DecidableEq, Repr

/-- Program counter of the read loop: `readLoop`, `readOnePacket` with its `requestKeyChange`
and its inline `enterKeyExchangeLocked`. -/
inductive LPc
  /-- `if t.readSinceKex > t.config.RekeyThreshold` -/
  | start
  /-- `requestKeyChange`: `t.mu.Lock()` -/
  | rkLock
  /-- `sendKexInitLocked(subsequentKeyExchange)` -/
  | rkSend
  /-- `t.mu.Unlock()`; `return err` -/
  | rkUnlock (r : Option String)
  /-- `p, err := t.conn.readPacket()` -/
  | read
  /-- `t.mu.Lock()` on a KEXINIT -/
  | kexLock (p : Packet)
  /-- `firstKex := t.sessionID == nil`, `HelloOnly`, `sendKexInitLocked` -/
  | kexBegin (p : Packet)
  /-- `Unmarshal`, magics, `findAgreedAlgorithms`, the guess test, `kexAlgoMap` -/
  | negotiate (first : Bool) (p : Packet) (my : KexInitMsg)
  /-- `t.conn.readPacket()` discarding the peer's guessed packet -/
  | guess (first : Bool) (n : Transport.Negotiated)
  /-- `kex.Client` / `kex.Server` talking to the peer over `t.conn` -/
  | kexRun (first : Bool) (n : Transport.Negotiated)
  /-- `t.sessionID`, `result.SessionID`, `t.conn.prepareKeyChange(algs, result)` -/
  | keys (first : Bool) (algs : Algorithms) (r : KexResult)
  /-- `t.conn.writePacket([]byte{msgNewKeys})` -/
  | newKeysW (first : Bool)
  /-- `t.conn.readPacket()` expecting the peer's NEWKEYS -/
  | newKeysR (first : Bool)
  /-- `t.conn.Close()` after a failed exchange -/
  | dropConn (first : Bool) (e : String)
  /-- `t.writeError = err` -/
  | setWriteError (first : Bool) (e : String)
  /-- `t.sentInitMsg = nil; t.sentInitPacket = nil` -/
  | clear (first : Bool) (err : Option String)
  /-- `t.cond.Broadcast()` -/
  | bcast (first : Bool) (err : Option String)
  /-- `t.writtenSinceKex = 0; t.mu.Unlock()`, then the error or the marker -/
  | reset (first : Bool) (err : Option String)
  /-- `readLoop`: `if p[0] == msgIgnore || p[0] == msgDebug { continue }` -/
  | got (p : Packet)
  /-- `t.incoming <- p` -/
  | send (p : Packet)
  /-- `t.readError = err; close(t.incoming)` -/
  | stop (e : String)
  | endLock
  /-- `if t.writeError == nil { t.writeError = t.readError }` -/
  | endSet
  /-- `t.cond.Broadcast()` and the deferred `t.mu.Unlock()` -/
  | endBcast
  | done
  deriving DecidableEq, Repr

/-- Program counter of a goroutine calling `writePacket`, `sendKexInit` (`requestKeyChange`,
`requestInitialKeyChange`) or `readPacket`. -/
inductive UPc
  | idle
  /-- `t.mu.Lock()` -/
  | wLock (p : Packet)
  /-- `if t.writtenSinceKex > t.config.RekeyThreshold { t.sendKexInitLocked(...) }` -/
  | wCheck (p : Packet)
  /-- `for t.sentInitMsg != nil && t.writeError == nil { t.cond.Wait() }` and what follows -/
  | wLoop (p : Packet)
  /-- parked in `t.cond.Wait()` -/
  | wWait (p : Packet)
  /-- woken, taking `t.mu` again inside `Wait` -/
  | wWoken (p : Packet)
  /-- returning `r`; the deferred `t.mu.Unlock()` -/
  | wDone (r : Option String)
  | kLock (first : Bool)
  /-- `if !isFirst || t.sessionID == nil { sendKexInitLocked(isFirst) }` -/
  | kSend (first : Bool)
  /-- `t.mu.Unlock()`; `if err != nil { return err }` -/
  | kUnlock (first : Bool) (r : Option String)
  /-- `t.readPacket()` waiting for the first exchange's marker -/
  | kRecv
  /-- `packet[0] != msgNewKeys` -/
  | kGot (r : Except String Packet)
  /-- `readPacket`: `p, ok := <-t.incoming` -/
  | rRecv
  deriving DecidableEq, Repr

/-- The changing fields of `handshakeTransport`; `sentInitPacket` is `Marshal(sentInitMsg)`,
`incoming` is the buffered channel with its `closed` flag, `mu` the holder of `t.mu`. -/
structure HState (ι : Type) where
  readSinceKex : Nat
  mu : Option (Actor ι)
  sentInitMsg : Option KexInitMsg
  writtenSinceKex : Nat
  writeError : Option String
  sessionID : Option (List UInt8)
  readError : Option String
  incoming : List Packet
  closed : Bool
  loop : LPc
  user : ι → UPc

inductive Src
  | kexInit
  | kexMethod
  | newKeys
  | app
  deriving DecidableEq, Repr

inductive RdSrc
  | loop
  | guess
  | kexMethod
  | newKeys
  deriving DecidableEq, Repr

inductive Obs (ι : Type)
  | tau
  /-- `keyingTransport.writePacket(p)`, answered with success iff `ok` -/
  | write (src : Src) (p : Packet) (ok : Bool)
  /-- `keyingTransport.readPacket()` returned `r` -/
  | read (src : RdSrc) (r : Except String Packet)
  /-- `keyingTransport.prepareKeyChange(algs, r)` -/
  | prepare (algs : Algorithms) (r : KexResult)
  /-- `keyingTransport.Close()` -/
  | close
  /-- `t.writeError` goes from `nil` to `e` -/
  | fail (e : String)
  /-- a `handshakeTransport.readPacket()` returns `r` -/
  | recv (r : Except String Packet)
  /-- goroutine `i`'s `writePacket` returns `r` -/
  | wret (i : ι) (r : Option String)
  /-- goroutine `i`'s `sendKexInit(first)` returns `r` -/
  | kret (i : ι) (first : Bool) (r : Option String)
  deriving DecidableEq, Repr

end Fasst.Ssh
