import Fasst.Ssh.Handshake.Invariant

/-!
# Fasst.Ssh.Handshake.Progress — runs the transport can take

Each lemma here says that from any state meeting its preconditions the goroutines can run one
whole call or one whole exchange, and names the observations and the state reached:

* `writePacket_run`: a `writePacket` call with no KEXINIT outstanding forwards its packet;
* `writePacket_park_run`: a call that finds `writtenSinceKex` above the threshold hands a
  KEXINIT to `sendKexInitLocked` and parks in `Wait`;
* `woken_forward_run`: a woken writer forwards its packet;
* `requestInitialKeyChange_send_run`: the first `requestInitialKeyChange` writes its KEXINIT
  and waits on `incoming`;
* `forward_run`: the read loop queues a packet that opens no exchange;
* `kexBegin_run`, `kexFinish_run`, `exchange_run`: the read loop reads the peer's KEXINIT and
  completes the exchange.

The last section fixes a server-role transport on which the concrete runs of the later modules
take place.
-/

namespace Fasst.Ssh

variable {ι : Type} [DecidableEq ι] {T : Transport} {ext : Ext} {s : HState ι} {i : ι}
  {p : Packet} {c : List UInt8}

/-! ## Calls of `writePacket` -/

theorem writePacket_run (hi : s.user i = .idle) (hm : s.mu = none)
    (ht : ¬ T.config.rekeyThreshold < s.writtenSinceKex) (hs : s.sentInitMsg = none)
    (hw : s.writeError = none) (hk : p.tag ≠ msgKexInit) (hn : p.tag ≠ msgNewKeys) :
    Run T ext s [.tau, .tau, .tau, .write .app p true, .wret i none]
      { s with writtenSinceKex := s.writtenSinceKex + p.len } := by
  refine .cons (.user i (.callWrite p hi)) <|
    .cons (.user i (.wLock (p := p) (by simp) (by simp [hm]))) <|
    .cons (.user i (.wCheckSkip (p := p) (by simp) (by simpa using ht))) <|
    .cons (.user i (.wForward (p := p) (by simp) (by simpa using hs) (by simpa using hw) hk hn
      none)) <|
    .cons (.user i (.wReturn (r := none) (by simp))) (Run.of_eq ?_)
  cases s
  simp_all [HState.setUser]

/-- `requestInitialKeyChange` before any exchange: the caller hands its KEXINIT to
`sendKexInitLocked`, releases `t.mu` and waits on `incoming`. -/
theorem requestInitialKeyChange_send_run (hi : s.user i = .idle) (hm : s.mu = none)
    (hs : s.sessionID = none) (hc : c.length = 16) :
    Run T ext s [.tau, .tau, kexInitObs T ext s.sentInitMsg c none, .tau]
      { s with
        user := Function.update s.user i .kRecv,
        sentInitMsg := some (s.sentInitMsg.getD (T.kexInitMsg c)) } := by
  refine .cons (.user i (.callKex true hi)) <|
    .cons (.user i (.kLock (by exact setUser_user_self) (by simp [hm]))) <|
    .cons (.user i (.kSend (by exact setUser_user_self) (.inr (by simpa using hs)) c hc none)) <|
    .cons (.user i (.kUnlockFirst (by simp [errorOf]))) (Run.of_eq ?_)
  cases s
  simp_all [HState.setUser]

/-- A packet that is neither KEXINIT, ignore nor debug, read while the loop is quiet, is
appended to `incoming`. -/
theorem forward_run (hl : s.loop = .start) (hr : ¬ T.config.rekeyThreshold < s.readSinceKex)
    (hk : p.tag ≠ msgKexInit) (hp : p.tag ≠ msgIgnore ∧ p.tag ≠ msgDebug)
    (hq : s.incoming.length < 16) :
    Run T ext s [.tau, .read .loop (.ok p), .tau, .tau]
      { s with readSinceKex := s.readSinceKex + p.len, incoming := s.incoming ++ [p] } := by
  refine .cons (.loop (.start hl)) <| .cons (.loop (.readOk (by simp [hr]) p)) <|
    .cons (.loop (.gotKeep (p := p) (by simp [hk]) hp)) <| .cons (.loop (.send rfl hq))
    (Run.of_eq ?_)
  cases s
  simp_all

/-! ## A key exchange -/

/-- The peer's KEXINIT `pk` arrives while the loop is quiet: the loop takes `t.mu` and hands this
side's KEXINIT to `sendKexInitLocked`, which reuses the outstanding one or writes a fresh one. -/
theorem kexBegin_run {pk : Packet} (hl : s.loop = .start)
    (hr : ¬ T.config.rekeyThreshold < s.readSinceKex) (hm : s.mu = none)
    (hh : T.config.helloOnly = false) (hpk : pk.tag = msgKexInit) (hc : c.length = 16) :
    Run T ext s [.tau, .read .loop (.ok pk), .tau, kexInitObs T ext s.sentInitMsg c none]
      { s with
        loop := .negotiate (s.sessionID == none) pk (s.sentInitMsg.getD (T.kexInitMsg c)),
        readSinceKex := s.readSinceKex + pk.len, mu := some .loop,
        sentInitMsg := some (s.sentInitMsg.getD (T.kexInitMsg c)) } := by
  refine .cons (.loop (.start hl)) <| .cons (.loop (.readOk (by simp [hr]) pk)) <|
    .cons (.loop (.kexLock (p := pk) (by simp [hpk]) (by simp [hm]))) <|
    .cons (.loop (.kexBegin rfl hh c hc none)) (Run.of_eq ?_)
  cases s
  simp_all

/-- From the negotiation on: it agrees on a registered method without a wrong guess, the method
returns `r` and the role's checks pass, and both NEWKEYS go through.  The loop then holds the
marker, every parked writer is woken and both counters are reset. -/
theorem kexFinish_run {first : Bool} {pk : Packet} {my : KexInitMsg} {n : Transport.Negotiated}
    {r r' : KexResult} (hl : s.loop = .negotiate first pk my) (hn : T.negotiate ext my pk = .ok n)
    (hd : n.discard = false) (hk : ext.kexAlgoMap n.algs.kex = true)
    (hf : T.finish ext r = .ok r') :
    Run T ext s [.tau, .tau, .prepare n.algs { r' with sessionID := s.sessionID.getD r'.h },
        .write .newKeys ⟨msgNewKeys, []⟩ true, .read .newKeys (.ok ⟨msgNewKeys, []⟩), .tau, .tau,
        .tau]
      { s with
        loop := .got (marker first), readSinceKex := 0, writtenSinceKex := 0, mu := none,
        sentInitMsg := none, sessionID := some (s.sessionID.getD r'.h), user := wake s.user } := by
  refine .cons (.loop (.negotiate hl)) <|
    .cons (.loop (.kexDone (by
      simp only [setLoop_loop, hn, hd, afterGuess, hk, Bool.false_eq_true, ↓reduceIte]; rfl) r)) <|
    .cons (.loop (.keys (by simp only [setLoop_loop, hf]; rfl))) <|
    .cons (.loop (.newKeysW rfl none)) <|
    .cons (.loop (.newKeysR rfl (.ok ⟨msgNewKeys, []⟩))) <|
    .cons (.loop (.clear rfl)) <| .cons (.loop (.bcast rfl)) <|
    .cons (.loop (.resetOk rfl)) (Run.of_eq ?_)
  cases s
  simp_all

theorem exchange_run {pk : Packet} {n : Transport.Negotiated} {r r' : KexResult}
    (hl : s.loop = .start) (hr : ¬ T.config.rekeyThreshold < s.readSinceKex) (hm : s.mu = none)
    (hh : T.config.helloOnly = false) (hpk : pk.tag = msgKexInit) (hc : c.length = 16)
    (hn : T.negotiate ext (s.sentInitMsg.getD (T.kexInitMsg c)) pk = .ok n)
    (hd : n.discard = false) (hk : ext.kexAlgoMap n.algs.kex = true)
    (hf : T.finish ext r = .ok r') :
    Run T ext s [.tau, .read .loop (.ok pk), .tau, kexInitObs T ext s.sentInitMsg c none, .tau,
        .tau, .prepare n.algs { r' with sessionID := s.sessionID.getD r'.h },
        .write .newKeys ⟨msgNewKeys, []⟩ true, .read .newKeys (.ok ⟨msgNewKeys, []⟩), .tau, .tau,
        .tau]
      { s with
        loop := .got (marker (s.sessionID == none)), readSinceKex := 0, writtenSinceKex := 0,
        mu := none, sentInitMsg := none, sessionID := some (s.sessionID.getD r'.h),
        user := wake s.user } :=
  (kexBegin_run hl hr hm hh hpk hc).trans (kexFinish_run rfl hn hd hk hf)

/-! ## A sample server -/

/-- A server-role transport offering one algorithm per category, with the smallest
`RekeyThreshold` that `SetDefaults` leaves (`minRekeyThreshold`). -/
def sampleServer : Transport where
  config := ⟨256, ["curve25519-sha256"], ["aes128-ctr"], ["hmac-sha2-256"], false⟩
  serverVersion := []
  clientVersion := []
  hostKeys := [⟨⟨"ssh-ed25519", []⟩⟩]
  hostKeyAlgorithms := []
  hostKeyCallback := none
  dialAddress := ""
  remoteAddr := ""

/-- The client side of the sample: no host keys, accepting the server's host-key algorithm. -/
def sampleClient : Transport :=
  { sampleServer with hostKeys := [], hostKeyAlgorithms := ["ssh-ed25519"] }

def sampleCookie : List UInt8 := List.replicate 16 0

/-- A codec under which every KEXINIT the peer sends offers the sample server's algorithms. -/
def sampleExt : Ext where
  marshal _ := []
  unmarshal _ := .ok (sampleServer.kexInitMsg sampleCookie)
  parsePublicKey _ := .error "ssh: short read"
  parseSignatureBody _ := none
  verify _ _ _ := none
  kexAlgoMap _ := true

def samplePeerInit : Packet := kexInitPacket sampleExt (sampleServer.kexInitMsg sampleCookie)

def sampleData : Packet := ⟨94, List.replicate 300 0⟩

@[simp] theorem sampleData_len : sampleData.len = 301 := by
  simp only [sampleData, Packet.len, List.length_replicate]

def sampleResult : KexResult := ⟨[1], [2], [], [], []⟩

theorem sample_negotiate :
    ∃ n, sampleServer.negotiate sampleExt (sampleServer.kexInitMsg sampleCookie) samplePeerInit =
      .ok n ∧ n.discard = false ∧ sampleExt.kexAlgoMap n.algs.kex = true :=
  ⟨_, rfl, rfl, rfl⟩

end Fasst.Ssh
