import Fasst.Ssh.Handshake.Rekey

/-!
# Fasst.Ssh.Handshake.Session — the session id, the negotiation, the first exchange

* `session_id_first_exchange`: `t.sessionID` is the exchange hash of the first result handed to
  `prepareKeyChange` (the first exchange whose method and, for a client, host-key checks
  succeeded), it is never reassigned, and every later result carries it.
* `negotiation_agrees`: a client and a server, each negotiating with the KEXINIT it wrote and the
  one the other wrote, place the two inits in the same order, build the same magics and call
  `findAgreedAlgorithms` on the same pair.
* `initial_kex_accepts_peer_newkeys`: `requestInitialKeyChange` takes any packet of type
  NEWKEYS from `incoming` for the marker of the first exchange, also one the peer sent before
  any exchange.
-/

namespace Fasst.Ssh

variable {ι : Type} {T : Transport} {ext : Ext} {s s' t : HState ι} {o : Obs ι}
  {os : List (Obs ι)}

/-! ## The session id -/

/-- `H` of the first key-exchange result handed to `prepareKeyChange`. -/
def firstPrepared : List (Obs ι) → Option (List UInt8)
  | [] => none
  | .prepare _ r :: _ => some r.h
  | _ :: os => firstPrepared os

@[simp] theorem firstPrepared_append (a b : List (Obs ι)) :
    firstPrepared (a ++ b) = (firstPrepared a).or (firstPrepared b) := by
  induction a with
  | nil => rfl
  | cons o a ih => cases o <;> simp [firstPrepared, ih]

theorem Transport.finish_ok {r r' : KexResult} (h : T.finish ext r = .ok r') : r' = r := by
  unfold Transport.finish Transport.client at h
  simp only [bind, Except.bind] at h
  repeat' split at h
  all_goals cases h <;> rfl

/-- The loop reaches `prepareKeyChange` only with a result the role's checks accepted. -/
def KeysChecked (T : Transport) (ext : Ext) (s : HState ι) : Prop :=
  ∀ first algs r, s.loop = .keys first algs r → T.finish ext r = .ok r

variable [DecidableEq ι]

/-- A step sets the session id only at `prepareKeyChange`, to the one it had or else to the
result's `H`. -/
theorem Step.sessionID (hK : KeysChecked T ext s) (h : Step T ext s o s') :
    KeysChecked T ext s' ∧
    ((∃ algs r, T.finish ext r = .ok r ∧
        o = .prepare algs { r with sessionID := s.sessionID.getD r.h } ∧
        s'.sessionID = some (s.sessionID.getD r.h)) ∨
      ((∀ algs r, o ≠ .prepare algs r) ∧ s'.sessionID = s.sessionID)) := by
  cases h with
  | user i h =>
    obtain ⟨-, hl, -, -, -, -, hsid, -⟩ := h.frame
    refine ⟨fun f a r he => hK f a r (hl ▸ he), .inr ⟨?_, hsid⟩⟩
    cases h <;> simp
  | loop h =>
    cases h
    case kexDone r =>
      refine ⟨fun f a r' he => ?_, .inr ⟨by simp, rfl⟩⟩
      simp only [setLoop_loop] at he
      split at he
      · cases he
      · next r'' hf => cases he; exact (Transport.finish_ok hf) ▸ hf
    case keys f algs r hl =>
      exact ⟨fun _ _ _ he => by simp at he, .inl ⟨algs, r, hK f algs r hl, rfl, rfl⟩⟩
    all_goals
      refine ⟨fun f a r he => ?_, .inr ⟨by simp, by simp⟩⟩
      (repeat' split at he) <;> simp_all

/-- Along a run from the start: the session id is `H` of the first prepared result, and every
result handed to `prepareKeyChange` carries it and passed the role's checks. -/
theorem Run.sessionID_first (h : Run T ext .init os s) :
    KeysChecked T ext s ∧ s.sessionID = firstPrepared os ∧
      ∀ algs r, .prepare algs r ∈ os → some r.sessionID = firstPrepared os ∧
        ∃ r₀, T.finish ext r₀ = .ok r₀ ∧ r = { r₀ with sessionID := r.sessionID } := by
  induction h with
  | refl => exact ⟨fun _ _ _ he => by simp [HState.init] at he, rfl, by simp⟩
  | @tail t u os o _ hst ih =>
    obtain ⟨hK, hsid, hprep⟩ := ih
    obtain ⟨hK', hstep⟩ := hst.sessionID hK
    refine ⟨hK', ?_⟩
    rcases hstep with ⟨algs, r, hf, rfl, h'⟩ | ⟨hne, h'⟩
    · have hfp : firstPrepared (os ++ [.prepare algs { r with sessionID := t.sessionID.getD r.h }])
          = some (t.sessionID.getD r.h) := by
        cases hs : t.sessionID <;> simp [firstPrepared, ← hsid, hs]
      refine ⟨by rw [h', hfp], fun a r' hm => ?_⟩
      rw [hfp]
      rcases List.mem_append.mp hm with hm | hm
      · obtain ⟨h1, h2⟩ := hprep a r' hm
        rw [← hsid] at h1
        exact ⟨by simp [← h1], h2⟩
      · simp only [List.mem_singleton, Obs.prepare.injEq] at hm
        obtain ⟨rfl, rfl⟩ := hm
        exact ⟨rfl, r, hf, rfl⟩
    · have hfp : firstPrepared [o] = none := by
        cases o <;> simp_all [firstPrepared]
      refine ⟨by simp [h', hsid, hfp], fun a r' hm => ?_⟩
      rcases List.mem_append.mp hm with hm | hm
      · simpa [hfp] using hprep a r' hm
      · exact absurd (List.mem_singleton.mp hm).symm (hne a r')

theorem Run.sessionID_stable (hK : KeysChecked T ext s) (hne : s.sessionID ≠ none)
    (h : Run T ext s os t) : KeysChecked T ext t ∧ t.sessionID = s.sessionID := by
  induction h with
  | refl => exact ⟨hK, rfl⟩
  | tail _ hst ih =>
    obtain ⟨hK', hstep⟩ := hst.sessionID ih.1
    refine ⟨hK', ?_⟩
    obtain ⟨x, hx⟩ := Option.ne_none_iff_exists'.mp hne
    rcases hstep with ⟨_, _, _, _, h'⟩ | ⟨_, h'⟩ <;> simp [h', ih.2, hx]

/-- **The session id is the first exchange's hash.** Along every run, `t.sessionID` is `H` of
the first result handed to `prepareKeyChange` (none before it); every result handed over carries
that session id and passed the role's checks; and once set the session id never changes. -/
theorem session_id_first_exchange {s : HState ι} (h : Run T ext .init os s) :
    s.sessionID = firstPrepared os ∧
    (∀ algs r, .prepare algs r ∈ os →
      some r.sessionID = firstPrepared os ∧
        ∃ r₀, T.finish ext r₀ = .ok r₀ ∧ r = { r₀ with sessionID := r.sessionID }) ∧
    ∀ os' t, Run T ext s os' t → s.sessionID ≠ none → t.sessionID = s.sessionID :=
  let ⟨hK, hsid, hprep⟩ := h.sessionID_first
  ⟨hsid, hprep, fun _ _ ht hne => (ht.sessionID_stable hK hne).2⟩

theorem session_id_sample :
    ∃ (os : List (Obs (Fin 1))) (s : HState (Fin 1)), Run sampleServer sampleExt .init os s ∧
      firstPrepared os = some sampleResult.h ∧
      s.sessionID = firstPrepared os ∧
      (∀ algs r, .prepare algs r ∈ os →
        some r.sessionID = firstPrepared os ∧
          ∃ r₀, sampleServer.finish sampleExt r₀ = .ok r₀ ∧
            r = { r₀ with sessionID := r.sessionID }) ∧
      ∀ os' t, Run sampleServer sampleExt s os' t → s.sessionID ≠ none →
        t.sessionID = s.sessionID := by
  obtain ⟨n, hn, hd, hk⟩ := sample_negotiate
  have h := exchange_run (T := sampleServer) (s := (HState.init : HState (Fin 1)))
    (c := sampleCookie) (r := sampleResult) rfl (by decide) rfl rfl rfl rfl hn hd hk rfl
  exact ⟨_, _, h, rfl, session_id_first_exchange h⟩

/-! ## Both sides negotiate the same -/

section Negotiation

/-- What the two ends of one exchange have to agree on: the two inits in client, server order,
the magics and the algorithms. -/
def Transport.Negotiated.agreed (n : Transport.Negotiated) :
    KexInitMsg × KexInitMsg × HandshakeMagics × Algorithms :=
  (n.clientInit, n.serverInit, n.magics, n.algs)

variable {mine theirs : KexInitMsg}

theorem negotiate_client_role (hc : T.hostKeys = [])
    (ht : ext.unmarshal (kexInitPacket ext theirs) = .ok theirs) :
    (T.negotiate ext mine (kexInitPacket ext theirs)).map Transport.Negotiated.agreed =
      (findAgreedAlgorithms mine theirs).map fun algs =>
        (mine, theirs,
          ⟨T.clientVersion, T.serverVersion, kexInitPacket ext mine, kexInitPacket ext theirs⟩,
          algs) := by
  simp only [Transport.negotiate, ht, hc, List.length_nil, ↓reduceIte, bind, Except.bind]
  cases findAgreedAlgorithms mine theirs <;> rfl

theorem negotiate_server_role (hs : T.hostKeys ≠ [])
    (ht : ext.unmarshal (kexInitPacket ext theirs) = .ok theirs) :
    (T.negotiate ext mine (kexInitPacket ext theirs)).map Transport.Negotiated.agreed =
      (findAgreedAlgorithms theirs mine).map fun algs =>
        (theirs, mine,
          ⟨T.clientVersion, T.serverVersion, kexInitPacket ext theirs, kexInitPacket ext mine⟩,
          algs) := by
  simp only [Transport.negotiate, ht, List.length_eq_zero, hs, ↓reduceIte, bind, Except.bind]
  cases findAgreedAlgorithms theirs mine <;> rfl

omit [DecidableEq ι] in
theorem kexInitObs_of_sent {sent : Option KexInitMsg} {c : List UInt8} {o : Option String}
    {m : KexInitMsg} (hs : (T.sendKexInitLocked sent c o).2 = some m) :
    sent = some m ∨
      (kexInitObs T ext sent c o : Obs ι) = .write .kexInit (kexInitPacket ext m) true := by
  cases sent <;> cases o <;> simp_all [Transport.sendKexInitLocked, kexInitObs]

theorem Step.sent_some (h : Step T ext s o s') {m : KexInitMsg} (hs : s'.sentInitMsg = some m) :
    s.sentInitMsg = some m ∨ o = .write .kexInit (kexInitPacket ext m) true := by
  cases h with
  | loop h =>
    cases h
    case rkSend | kexBegin => exact kexInitObs_of_sent hs
    all_goals simp_all
  | user i h =>
    cases h
    case wCheckSend | kSend => exact kexInitObs_of_sent hs
    all_goals simp_all

/-- The outstanding KEXINIT was handed to the underlying transport and written. -/
theorem sent_written {m : KexInitMsg} (h : Run T ext .init os s) (hs : s.sentInitMsg = some m) :
    .write .kexInit (kexInitPacket ext m) true ∈ os := by
  induction h with
  | refl => simp [HState.init] at hs
  | tail _ hst ih =>
    rcases hst.sent_some hs with h' | h'
    · exact List.mem_append_left _ (ih h')
    · simp [h']

/-- **Both ends negotiate the same.** A client (no host keys) and a server (host keys) at the
negotiation of one exchange, each with the KEXINIT it wrote and the one the other wrote (under a
codec that reads back those two messages, and with the same version strings): the KEXINITs they
negotiate with are the ones they wrote, fresh or reused, and both place the client's first,
build the same magics and call `findAgreedAlgorithms` on the same pair, whoever sent first. -/
theorem negotiation_agrees {κ : Type} [DecidableEq κ] {Tc Ts : Transport} {sc : HState ι}
    {ss : HState κ} {osc : List (Obs ι)} {oss : List (Obs κ)} {fc fs : Bool} {mc ms : KexInitMsg}
    (hc : Tc.hostKeys = []) (hs : Ts.hostKeys ≠ [])
    (hcv : Tc.clientVersion = Ts.clientVersion) (hsv : Tc.serverVersion = Ts.serverVersion)
    (hmc : ext.unmarshal (kexInitPacket ext mc) = .ok mc)
    (hms : ext.unmarshal (kexInitPacket ext ms) = .ok ms)
    (rc : Run Tc ext .init osc sc) (rs : Run Ts ext .init oss ss)
    (hlc : sc.loop = .negotiate fc (kexInitPacket ext ms) mc)
    (hls : ss.loop = .negotiate fs (kexInitPacket ext mc) ms) :
    Obs.write .kexInit (kexInitPacket ext mc) true ∈ osc ∧
    Obs.write .kexInit (kexInitPacket ext ms) true ∈ oss ∧
    (Tc.negotiate ext mc (kexInitPacket ext ms)).map Transport.Negotiated.agreed =
      (Ts.negotiate ext ms (kexInitPacket ext mc)).map Transport.Negotiated.agreed ∧
    (Ts.negotiate ext ms (kexInitPacket ext mc)).map Transport.Negotiated.agreed =
      (findAgreedAlgorithms mc ms).map fun algs =>
        (mc, ms,
          ⟨Ts.clientVersion, Ts.serverVersion, kexInitPacket ext mc, kexInitPacket ext ms⟩,
          algs) := by
  have sentc := (Inv.init.run rc).sent_at
  have sents := (Inv.init.run rs).sent_at
  rw [hlc] at sentc
  rw [hls] at sents
  refine ⟨sent_written rc sentc, sent_written rs sents, ?_, negotiate_server_role hs hmc⟩
  rw [negotiate_client_role hc hms, negotiate_server_role hs hmc, hcv, hsv]

theorem negotiation_agrees_sample :
    ∃ (sc ss : HState (Fin 1)) (osc oss : List (Obs (Fin 1))),
      Run sampleClient sampleExt .init osc sc ∧ Run sampleServer sampleExt .init oss ss ∧
      sc.loop = .negotiate true samplePeerInit (sampleClient.kexInitMsg sampleCookie) ∧
      ss.loop = .negotiate true (kexInitPacket sampleExt (sampleClient.kexInitMsg sampleCookie))
        (sampleServer.kexInitMsg sampleCookie) ∧
      Obs.write .kexInit (kexInitPacket sampleExt (sampleClient.kexInitMsg sampleCookie)) true ∈
        osc ∧
      Obs.write .kexInit samplePeerInit true ∈ oss ∧
      (sampleClient.negotiate sampleExt (sampleClient.kexInitMsg sampleCookie) samplePeerInit).map
          Transport.Negotiated.agreed =
        (sampleServer.negotiate sampleExt (sampleServer.kexInitMsg sampleCookie)
          (kexInitPacket sampleExt (sampleClient.kexInitMsg sampleCookie))).map
          Transport.Negotiated.agreed ∧
      (sampleServer.negotiate sampleExt (sampleServer.kexInitMsg sampleCookie)
          (kexInitPacket sampleExt (sampleClient.kexInitMsg sampleCookie))).map
          Transport.Negotiated.agreed =
        (findAgreedAlgorithms (sampleClient.kexInitMsg sampleCookie)
          (sampleServer.kexInitMsg sampleCookie)).map fun algs =>
          (sampleClient.kexInitMsg sampleCookie, sampleServer.kexInitMsg sampleCookie,
            ⟨sampleServer.clientVersion, sampleServer.serverVersion,
              kexInitPacket sampleExt (sampleClient.kexInitMsg sampleCookie), samplePeerInit⟩,
            algs) := by
  have rc : Run sampleClient sampleExt (HState.init : HState (Fin 1))
      [.tau, .read .loop (.ok samplePeerInit), .tau, kexInitObs _ _ none sampleCookie none] _ :=
    kexBegin_run rfl (by decide) rfl rfl rfl rfl
  have rs : Run sampleServer sampleExt (HState.init : HState (Fin 1))
      [.tau, .read .loop (.ok (kexInitPacket sampleExt (sampleClient.kexInitMsg sampleCookie))),
        .tau, kexInitObs _ _ none sampleCookie none] _ :=
    kexBegin_run rfl (by decide) rfl rfl rfl rfl
  exact ⟨_, _, _, _, rc, rs, rfl, rfl,
    negotiation_agrees rfl (by simp [sampleServer]) rfl rfl rfl rfl rc rs rfl rfl⟩

end Negotiation

/-! ## The wait for the first exchange -/

/-- **A peer's NEWKEYS passes for the first exchange.** The peer sends a packet of type NEWKEYS
before any KEXINIT; the read loop queues it like any other packet, and
`requestInitialKeyChange`, having written its KEXINIT, reads it from `incoming` and returns `nil`
although no exchange ran: the session id is unset, `prepareKeyChange` was never called and no
NEWKEYS was written. -/
theorem initial_kex_accepts_peer_newkeys (T : Transport) (ext : Ext) :
    ∃ s : HState (Fin 1), Run T ext .init
      [.tau, .tau, .write .kexInit (kexInitPacket ext (T.kexInitMsg sampleCookie)) true, .tau,
        .tau, .read .loop (.ok ⟨msgNewKeys, []⟩), .tau, .tau, .recv (.ok ⟨msgNewKeys, []⟩),
        .kret 0 true none] s ∧ s.sessionID = none :=
  ⟨_, (requestInitialKeyChange_send_run (i := 0) (c := sampleCookie) rfl rfl rfl rfl).trans <|
    (forward_run rfl (by simp [HState.init]) (by decide) (by decide)
      (by simp [HState.init])).trans <|
    .cons (.user 0 (.kRecv (by simp) rfl)) <|
    .cons (.user 0 (.kGot (r := .ok ⟨msgNewKeys, []⟩) (by simp))) (.refl _), rfl⟩

end Fasst.Ssh
