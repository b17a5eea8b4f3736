import Fasst.Ssh.Handshake.Session

/-!
# Fasst.Ssh.Handshake.Exchange — inside `enterKeyExchangeLocked`

What the read loop does between the negotiation and `prepareKeyChange`:

* `Transport.negotiate_eq_ok` says once what a successful negotiation computed; from it,
  `kept_guess_agreed`: the `first_kex_packet_follows` test indexes only non-empty lists, and a
  guessed packet the loop keeps was guessed for the agreed kex and host-key algorithms.
* `server_host_key_selected`: in the server role, `server` always finds a host key of the agreed
  type, because every KEXINIT the server negotiates with, fresh or reused, offers exactly the
  types of its host keys (`Negotiating`, an invariant of every reachable state).
* `client_host_key_checked`: in the client role, `prepareKeyChange`, the session id and NEWKEYS
  come only from a result that passed `client`'s checks (`HostKeyAccepted`); a rejected result
  fails the exchange with the failing check's error (`HostKeyRejected`), after which the loop
  only closes the connection, records that error and leaves (`Failing`, a run invariant).
-/

namespace Fasst.Ssh

variable {ι : Type} {T : Transport} {ext : Ext} {s s' : HState ι} {o : Obs ι}

/-! ## The negotiation -/

section Negotiation

variable {my : KexInitMsg} {p : Packet} {n : Transport.Negotiated}

/-- What a successful `negotiate` computed: the peer's KEXINIT, the inits placed by role, the
agreed algorithms and the guess test. -/
theorem Transport.negotiate_eq_ok (h : T.negotiate ext my p = .ok n) :
    ∃ other, ext.unmarshal p = .ok other ∧
      ((T.hostKeys = [] ∧ n.clientInit = my ∧ n.serverInit = other) ∨
        (T.hostKeys ≠ [] ∧ n.clientInit = other ∧ n.serverInit = my)) ∧
      findAgreedAlgorithms n.clientInit n.serverInit = .ok n.algs ∧
      n.discard = (other.firstKexFollows &&
        (n.clientInit.kexAlgos.head? != n.serverInit.kexAlgos.head? ||
          n.clientInit.serverHostKeyAlgos.head? != n.serverInit.serverHostKeyAlgos.head?)) := by
  unfold Transport.negotiate at h
  cases hu : ext.unmarshal p with
  | error e => simp [hu, bind, Except.bind] at h
  | ok other =>
    refine ⟨other, rfl, ?_⟩
    simp only [hu, bind, Except.bind, List.length_eq_zero] at h
    by_cases hk : T.hostKeys = []
    all_goals
      simp only [hk, ↓reduceIte, pure, Except.pure] at h
      split at h
      · cases h
      · cases h; simp_all

/-- With the peer's guess flag set and the guess test passed, the peer's first kex and host-key
algorithms are the agreed ones. -/
theorem Transport.negotiate_guess_agreed {other : KexInitMsg} (h : T.negotiate ext my p = .ok n)
    (hu : ext.unmarshal p = .ok other) (hf : other.firstKexFollows = true)
    (hd : n.discard = false) :
    other.kexAlgos.head? = some n.algs.kex ∧ other.serverHostKeyAlgos.head? = some n.algs.hostKey := by
  obtain ⟨other', hu', hrole, hagree, hdisc⟩ := Transport.negotiate_eq_ok h
  obtain rfl : other' = other := by simpa [hu] using hu'.symm
  obtain ⟨hkex, hhost⟩ := findAgreedAlgorithms_kex_hostKey hagree
  rw [hd, hf, Bool.true_and, eq_comm, Bool.or_eq_false_iff] at hdisc
  simp only [bne_eq_false_iff_eq] at hdisc
  have hk := hkex.head_eq hdisc.1
  have hh := hhost.head_eq hdisc.2
  rcases hrole with ⟨-, -, rfl⟩ | ⟨-, rfl, -⟩
  · exact ⟨hk.2, hh.2⟩
  · exact ⟨hk.1, hh.1⟩

/-- **A kept guess belongs to the agreed algorithms.** Whenever `findAgreedAlgorithms`
succeeds, the kex and host-key lists of both KEXINITs are non-empty, so the
`first_kex_packet_follows` test indexes element 0 of each; and when the peer announced a guessed
packet and the read loop goes on from the negotiation without reading and discarding it, the
peer's first kex and host-key algorithms are the agreed ones. -/
theorem kept_guess_agreed :
    (∀ ci si a, findAgreedAlgorithms ci si = .ok a →
      ci.kexAlgos ≠ [] ∧ si.kexAlgos ≠ [] ∧ ci.serverHostKeyAlgos ≠ [] ∧
        si.serverHostKeyAlgos ≠ []) ∧
    (∀ (s s' : HState ι) o first p my n other, s.loop = .negotiate first p my →
      LoopStep T ext s o s' → T.negotiate ext my p = .ok n → ext.unmarshal p = .ok other →
      other.firstKexFollows = true → (∀ f n', s'.loop ≠ .guess f n') →
      other.kexAlgos.head? = some n.algs.kex ∧
        other.serverHostKeyAlgos.head? = some n.algs.hostKey) := by
  refine ⟨fun ci si a h => ?_, fun s s' o first p my n other hl h hn hu hf hg => ?_⟩
  · obtain ⟨⟨hk, _, _, hck, -⟩, ⟨hh, _, _, hch, -⟩⟩ := findAgreedAlgorithms_kex_hostKey h
    exact ⟨by simp [hck], List.ne_nil_of_mem hk, by simp [hch], List.ne_nil_of_mem hh⟩
  · refine Transport.negotiate_guess_agreed hn hu hf ?_
    cases h
    case negotiate hl' =>
      rw [hl] at hl'
      obtain ⟨rfl, rfl, rfl⟩ := LPc.negotiate.inj hl'
      simp only [setLoop_loop, hn] at hg
      cases hd : n.discard
      · rfl
      · simp [hd] at hg
    all_goals simp_all

end Negotiation

/-! ## The server's host key -/

section HostKey

theorem Transport.selectHostKey_eq (name : String) :
    T.selectHostKey name = T.hostKeys.reverse.find? (fun k => name = k.publicKey.type) := by
  suffices h : ∀ (l : List Signer) acc,
      l.foldl (fun hostKey k => if name = k.publicKey.type then some k else hostKey) acc =
        (l.reverse.find? fun k => name = k.publicKey.type).or acc by
    simpa using h T.hostKeys none
  intro l
  induction l with
  | nil => simp
  | cons k l ih =>
    intro acc
    rw [List.foldl_cons, ih, List.reverse_cons, List.find?_append]
    by_cases hk : name = k.publicKey.type <;>
      cases List.find? (fun k => decide (name = k.publicKey.type)) l.reverse <;> simp [hk]

theorem Transport.selectHostKey_of_mem {name : String}
    (h : name ∈ T.hostKeys.map (·.publicKey.type)) :
    ∃ k ∈ T.hostKeys, T.selectHostKey name = some k ∧ k.publicKey.type = name := by
  obtain ⟨k, hk, rfl⟩ := List.mem_map.1 h
  obtain ⟨k', hk'⟩ : ∃ k',
      T.hostKeys.reverse.find? (fun k' => k.publicKey.type = k'.publicKey.type) = some k' :=
    Option.isSome_iff_exists.1 <| List.find?_isSome.2 ⟨k, List.mem_reverse.2 hk, by simp⟩
  rw [Transport.selectHostKey_eq]
  exact ⟨k', List.mem_reverse.1 (List.mem_of_find?_eq_some hk'), hk',
    by simpa [eq_comm] using List.find?_some hk'⟩

/-- In the server role a negotiation with a KEXINIT the server built agrees on one of the types
of its host keys. -/
theorem Transport.negotiate_server_hostKey {c : List UInt8} {p : Packet}
    {n : Transport.Negotiated} (hk : T.hostKeys ≠ [])
    (h : T.negotiate ext (T.kexInitMsg c) p = .ok n) :
    n.serverInit.serverHostKeyAlgos = T.hostKeys.map (·.publicKey.type) ∧
      n.algs.hostKey ∈ n.serverInit.serverHostKeyAlgos := by
  obtain ⟨_, -, hrole, hagree, -⟩ := Transport.negotiate_eq_ok h
  have hserver : n.serverInit = T.kexInitMsg c := by
    rcases hrole with ⟨h0, -⟩ | ⟨-, -, h1⟩
    · exact absurd h0 hk
    · exact h1
  refine ⟨?_, (findAgreedAlgorithms_kex_hostKey hagree).2.1⟩
  simp [hserver, Transport.kexInitMsg, List.length_pos.2 hk]

theorem Transport.sendKexInitLocked_built {sent : Option KexInitMsg} {c : List UInt8}
    {o : Option String} {m : KexInitMsg} (h : (T.sendKexInitLocked sent c o).2 = some m) :
    sent = some m ∨ m = T.kexInitMsg c := by
  unfold Transport.sendKexInitLocked at h
  split at h <;> simp_all [eq_comm]

theorem afterGuess_ne_guess {first f : Bool} {n n' : Transport.Negotiated} :
    afterGuess ext first n ≠ .guess f n' := by
  unfold afterGuess; split <;> simp

theorem afterGuess_eq_kexRun {first f : Bool} {n n' : Transport.Negotiated}
    (h : afterGuess ext first n = .kexRun f n') : n' = n := by
  unfold afterGuess at h; split at h <;> simp_all

/-- The exchange in progress was negotiated with a KEXINIT this side built, and the outstanding
KEXINIT is one it built. -/
def Negotiating (T : Transport) (ext : Ext) (s : HState ι) : Prop :=
  (∀ m, s.sentInitMsg = some m → ∃ c, m = T.kexInitMsg c) ∧
    ∀ first n, (s.loop = .guess first n ∨ s.loop = .kexRun first n) →
      ∃ c p, T.negotiate ext (T.kexInitMsg c) p = .ok n

variable [DecidableEq ι]

theorem Step.sent_built (h : Step T ext s o s') {m : KexInitMsg} (hs : s'.sentInitMsg = some m) :
    s.sentInitMsg = some m ∨ ∃ c, m = T.kexInitMsg c := by
  cases h with
  | loop h =>
    cases h
    case rkSend | kexBegin => exact (Transport.sendKexInitLocked_built hs).imp_right (⟨_, ·⟩)
    case clear => cases hs
    all_goals exact .inl hs
  | user i h =>
    cases h
    case wCheckSend | kSend => exact (Transport.sendKexInitLocked_built hs).imp_right (⟨_, ·⟩)
    all_goals exact .inl hs

theorem Negotiating.step (hI : Inv s) (hN : Negotiating T ext s) (h : Step T ext s o s') :
    Negotiating T ext s' := by
  refine ⟨fun m hm => (h.sent_built hm).elim (hN.1 m) id, fun first n hl => ?_⟩
  cases h with
  | user i h => exact hN.2 first n (h.frame.2.1 ▸ hl)
  | loop h =>
    cases h
    case negotiate f p my hs =>
      obtain ⟨c, rfl⟩ := hN.1 my (by simpa [hs, LPc.SentAt] using hI.sent_at)
      simp only [setLoop_loop] at hl
      split at hl
      · simp at hl
      · next n₀ hn₀ =>
        refine ⟨c, p, ?_⟩
        split at hl
        · simp_all
        · rcases hl with hl | hl
          · exact absurd hl afterGuess_ne_guess
          · rwa [afterGuess_eq_kexRun hl]
    case guess f n₀ hs r =>
      simp only [setLoop_loop] at hl
      split at hl
      · simp at hl
      · rcases hl with hl | hl
        · exact absurd hl afterGuess_ne_guess
        · exact afterGuess_eq_kexRun hl ▸ hN.2 f n₀ (.inl hs)
    case kexWrite | kexRead => exact hN.2 first n hl
    all_goals (repeat' split at hl) <;> simp_all

theorem Reachable.negotiating (hs : Reachable T ext s) : Negotiating T ext s := by
  obtain ⟨os, h⟩ := hs
  induction h with
  | refl => exact ⟨fun m hm => by simp [HState.init] at hm, fun f n hl => by simp [HState.init] at hl⟩
  | tail hr hst ih => exact ih.step (Inv.init.run hr) hst

/-- **The server has a host key for the agreed algorithm.** In the server role, whenever the
read loop runs a key-exchange method, the KEXINIT the server negotiated with (built by
`sendKexInitLocked`, fresh or reused) offers exactly the types of its host keys, the agreed
host-key algorithm is one of them, and `server`'s loop selects a host key of that type. -/
theorem server_host_key_selected {first : Bool} {n : Transport.Negotiated}
    (hs : Reachable T ext s) (hk : T.hostKeys ≠ []) (hl : s.loop = .kexRun first n) :
    n.serverInit.serverHostKeyAlgos = T.hostKeys.map (·.publicKey.type) ∧
      n.algs.hostKey ∈ n.serverInit.serverHostKeyAlgos ∧
      ∃ k ∈ T.hostKeys, T.selectHostKey n.algs.hostKey = some k ∧
        k.publicKey.type = n.algs.hostKey := by
  obtain ⟨c, p, hn⟩ := hs.negotiating.2 first n (.inr hl)
  obtain ⟨h1, h2⟩ := Transport.negotiate_server_hostKey hk hn
  exact ⟨h1, h2, Transport.selectHostKey_of_mem (h1 ▸ h2)⟩

theorem server_host_key_sample :
    ∃ (s : HState (Fin 1)) (n : Transport.Negotiated), Reachable sampleServer sampleExt s ∧
      sampleServer.hostKeys ≠ [] ∧ s.loop = .kexRun true n ∧
      n.serverInit.serverHostKeyAlgos = sampleServer.hostKeys.map (·.publicKey.type) ∧
      n.algs.hostKey ∈ n.serverInit.serverHostKeyAlgos ∧
      ∃ k ∈ sampleServer.hostKeys, sampleServer.selectHostKey n.algs.hostKey = some k ∧
        k.publicKey.type = n.algs.hostKey := by
  obtain ⟨n, hn, hd, hk⟩ := sample_negotiate
  have hr : Run sampleServer sampleExt (HState.init : HState (Fin 1))
      [.tau, .read .loop (.ok samplePeerInit), .tau, kexInitObs _ _ none sampleCookie none] _ :=
    kexBegin_run rfl (by decide) rfl rfl rfl rfl
  obtain ⟨t, hs, hl⟩ : ∃ t : HState (Fin 1),
      Reachable sampleServer sampleExt t ∧ t.loop = .kexRun true n :=
    ⟨_, ⟨_, hr.tail (.loop (.negotiate rfl))⟩, by
      simp only [setLoop_loop, HState.init, Option.getD_none, hn, hd, afterGuess, hk]; rfl⟩
  exact ⟨t, n, hs, by simp [sampleServer], hl,
    server_host_key_selected hs (by simp [sampleServer]) hl⟩

end HostKey

/-! ## The client's checks -/

section ClientChecks

variable {r : KexResult} {e : String}

/-- The client accepts a key-exchange result: `ParsePublicKey(result.HostKey)` succeeds, the
signature parses with no bytes left over and verifies over `result.H`, and the
`HostKeyCallback`, when set, returns `nil`. -/
def HostKeyAccepted (T : Transport) (ext : Ext) (r : KexResult) : Prop :=
  ∃ hk, ext.parsePublicKey r.hostKey = .ok hk ∧
    (∃ sig, ext.parseSignatureBody r.signature = some (sig, []) ∧ ext.verify hk r.h sig = none) ∧
    ∀ cb, T.hostKeyCallback = some cb → cb T.dialAddress T.remoteAddr hk = none

/-- The client rejects a key-exchange result with `e`, the error of the first check that fails:
`ParsePublicKey`, then `verifyHostKeySignature`, then the `HostKeyCallback`. -/
def HostKeyRejected (T : Transport) (ext : Ext) (r : KexResult) (e : String) : Prop :=
  ext.parsePublicKey r.hostKey = .error e ∨
    ∃ hk, ext.parsePublicKey r.hostKey = .ok hk ∧
      (verifyHostKeySignature ext hk r = some e ∨
        verifyHostKeySignature ext hk r = none ∧
          ∃ cb, T.hostKeyCallback = some cb ∧ cb T.dialAddress T.remoteAddr hk = some e)

@[simp] theorem hostKeyAccepted_with_sessionID {sid : List UInt8} :
    HostKeyAccepted T ext { r with sessionID := sid } ↔ HostKeyAccepted T ext r := Iff.rfl

theorem verifyHostKeySignature_eq_none_iff {hk : PublicKey} :
    verifyHostKeySignature ext hk r = none ↔
      ∃ sig, ext.parseSignatureBody r.signature = some (sig, []) ∧ ext.verify hk r.h sig = none := by
  unfold verifyHostKeySignature
  split <;> rename_i h
  · split <;> simp_all [List.length_pos]
  · simp [h]

theorem Transport.client_eq_ok_iff {r' : KexResult} :
    T.client ext r = .ok r' ↔ r' = r ∧ HostKeyAccepted T ext r := by
  unfold Transport.client HostKeyAccepted
  cases hp : ext.parsePublicKey r.hostKey with
  | error e' => simp [bind, Except.bind]
  | ok hk =>
    simp only [bind, Except.bind, Except.ok.injEq, exists_eq_left',
      ← verifyHostKeySignature_eq_none_iff]
    cases hv : verifyHostKeySignature ext hk r with
    | some e' => simp [throw, throwThe, MonadExceptOf.throw]
    | none =>
      cases hcb : T.hostKeyCallback with
      | none => simp [pure, Except.pure, eq_comm]
      | some cb =>
        cases hc : cb T.dialAddress T.remoteAddr hk <;>
          simp [hc, throw, throwThe, MonadExceptOf.throw, pure, Except.pure, eq_comm]

theorem Transport.client_eq_error_iff :
    T.client ext r = .error e ↔ HostKeyRejected T ext r e := by
  unfold Transport.client HostKeyRejected
  cases hp : ext.parsePublicKey r.hostKey with
  | error e' => simp [bind, Except.bind]
  | ok hk =>
    simp only [bind, Except.bind, reduceCtorEq, Except.ok.injEq, exists_eq_left', false_or]
    cases hv : verifyHostKeySignature ext hk r with
    | some e' => simp [throw, throwThe, MonadExceptOf.throw]
    | none =>
      cases hcb : T.hostKeyCallback with
      | none => simp [pure, Except.pure]
      | some cb =>
        cases hc : cb T.dialAddress T.remoteAddr hk <;>
          simp [hc, throw, throwThe, MonadExceptOf.throw, pure, Except.pure]

/-! ### Keys follow a checked result -/

/-- What a caller can show while the read loop holds `t.mu`. -/
def Obs.Quiet : Obs ι → Prop
  | .tau | .recv _ | .kret .. => True
  | _ => False

theorem firstPrepared_eq_some {os : List (Obs ι)} {h : List UInt8}
    (hf : firstPrepared os = some h) : ∃ algs r, .prepare algs r ∈ os ∧ r.h = h := by
  induction os with
  | nil => cases hf
  | cons o os ih =>
    cases o
    case prepare algs r => exact ⟨algs, r, List.mem_cons_self _ _, by simpa [firstPrepared] using hf⟩
    all_goals
      obtain ⟨algs, r, hm, hr⟩ := ih (by simpa [firstPrepared] using hf)
      exact ⟨algs, r, List.mem_cons_of_mem _ hm, hr⟩

@[simp] theorem afterGuess_ne_newKeysW {first f : Bool} {n : Transport.Negotiated} :
    afterGuess ext first n ≠ .newKeysW f := by
  unfold afterGuess; split <;> simp

variable [DecidableEq ι] {i : ι} {os : List (Obs ι)}

/-- While the read loop holds `t.mu`, a caller only takes a packet from `incoming`, returns from
the first exchange's wait, or starts a call. -/
theorem UserStep.quiet (hI : Inv s) (hl : s.loop.locked) (h : UserStep T ext i s o s') :
    o.Quiet := by
  have hm := hI.mu_loop.mpr hl
  have hu := hI.mu_user i
  cases h <;> simp_all [UPc.locked, Obs.Quiet]

theorem Step.newKeys_write {p : Packet} {b : Bool} (h : Step T ext s o s')
    (ho : o = .write .newKeys p b) : ∃ f, s.loop = .newKeysW f := by
  cases h with
  | loop h => cases h <;> simp_all
  | user i h => cases h <;> simp_all

omit [DecidableEq ι] in
theorem LoopStep.prepare_of_newKeysW {f : Bool} (h : LoopStep T ext s o s')
    (hl : s'.loop = .newKeysW f) : ∃ algs r, o = .prepare algs r := by
  cases h
  case keys => exact ⟨_, _, rfl⟩
  all_goals (repeat' split at hl) <;> simp_all

/-- The loop is about to write NEWKEYS only right after a `prepareKeyChange`, with nothing but
callers' quiet steps in between. -/
theorem Run.newKeysW_prepared {f : Bool} (h : Run T ext .init os s) (hl : s.loop = .newKeysW f) :
    ∃ a₁ algs r a₂, os = a₁ ++ [.prepare algs r] ++ a₂ ∧ ∀ o ∈ a₂, o.Quiet := by
  induction h generalizing f with
  | refl => simp [HState.init] at hl
  | @tail t u os o hr hst ih =>
    cases hst with
    | loop h =>
      obtain ⟨algs, r, rfl⟩ := h.prepare_of_newKeysW hl
      exact ⟨os, algs, r, [], (List.append_nil _).symm, by simp⟩
    | user i h =>
      have ht : t.loop = .newKeysW f := h.frame.2.1 ▸ hl
      obtain ⟨a₁, algs, r, a₂, rfl, hq⟩ := ih ht
      refine ⟨a₁, algs, r, a₂ ++ [o], by simp, fun o' ho' => ?_⟩
      rcases List.mem_append.1 ho' with ho' | ho'
      · exact hq o' ho'
      · exact (List.mem_singleton.1 ho') ▸ h.quiet (Inv.init.run hr) (by simp [ht, LPc.locked])

/-! ### After a rejected result -/

/-- The read loop after `t.writeError = err` for an exchange that failed with `e`: clearing,
waking, unlocking and leaving `readLoop`. -/
def LPc.Unwinding (e : String) : LPc → Prop
  | clear _ err | bcast _ err | reset _ err => err = some e
  | stop e' => e' = e
  | endLock | endSet | endBcast | done => True
  | _ => False

/-- How far the read loop has got after an exchange failed with `e`: before `t.conn.Close()`
(0), before `t.writeError = err` (1), after it (2 and on). -/
def Failing (e : String) : Nat → HState ι → Prop
  | 0, s => (∃ f, s.loop = .dropConn f e) ∧ s.writeError = none
  | 1, s => (∃ f, s.loop = .setWriteError f e) ∧ s.writeError = none
  | _ + 2, s => s.loop.Unwinding e ∧ s.writeError = some e

omit [DecidableEq ι] in
theorem Failing.congr {k : Nat} (hF : Failing e k s) (hl : s'.loop = s.loop)
    (hw : s'.writeError = s.writeError) : Failing e k s' := by
  rcases k with _ | _ | k <;> simpa [Failing, hl, hw] using hF

omit [DecidableEq ι] in
theorem Failing.loop_step {k : Nat} (hF : Failing e k s) (h : LoopStep T ext s o s') :
    s'.sessionID = s.sessionID ∧
      (k = 0 ∧ o = .close ∧ Failing e 1 s' ∨ k = 1 ∧ o = .fail e ∧ Failing e 2 s' ∨
        2 ≤ k ∧ o = .tau ∧ Failing e k s') := by
  rcases k with _ | _ | k
  · obtain ⟨⟨f, hl⟩, hw⟩ := hF
    cases h <;> simp_all [Failing]
  · obtain ⟨⟨f, hl⟩, hw⟩ := hF
    cases h <;> simp_all [Failing, LPc.Unwinding]
  · obtain ⟨hl, hw⟩ := hF
    cases h <;> simp_all [Failing, LPc.Unwinding]

omit [DecidableEq ι] in
theorem Failing.writeError {k : Nat} (hF : Failing e k s) (hk : 2 ≤ k) :
    s.writeError = some e := by
  obtain ⟨j, rfl⟩ : ∃ j, k = j + 2 := ⟨k - 2, by omega⟩
  exact hF.2

theorem UserStep.not_loop_obs (h : UserStep T ext i s o s') :
    (∀ algs r, o ≠ .prepare algs r) ∧ (∀ p b, o ≠ .write .newKeys p b) ∧ (∀ e, o ≠ .fail e) ∧
      o ≠ .close := by
  cases h <;> simp

theorem Failing.step {k : Nat} (hF : Failing e k s) (h : Step T ext s o s') :
    ∃ k', k ≤ k' ∧ Failing e k' s' ∧ s'.sessionID = s.sessionID ∧
      (∀ algs r, o ≠ .prepare algs r) ∧ (∀ p b, o ≠ .write .newKeys p b) ∧
      (k = 0 → 1 ≤ k' → o = .close) ∧ (∀ e', o = .fail e' → e' = e ∧ k = 1 ∧ k' = 2) := by
  cases h with
  | user i h =>
    obtain ⟨-, hl, -, hw, -, -, hsid, -⟩ := h.frame
    obtain ⟨hp, hn, hf, -⟩ := h.not_loop_obs
    exact ⟨k, le_rfl, hF.congr hl hw, hsid, hp, hn, fun _ _ => by omega,
      fun e' he => absurd he (hf e')⟩
  | loop h =>
    obtain ⟨hsid, ⟨rfl, rfl, hF'⟩ | ⟨rfl, rfl, hF'⟩ | ⟨hk, rfl, hF'⟩⟩ := hF.loop_step h
    · exact ⟨1, by omega, hF', hsid, by simp, by simp, fun _ _ => rfl, by simp⟩
    · exact ⟨2, by omega, hF', hsid, by simp, by simp, by omega, by simp⟩
    · exact ⟨k, le_rfl, hF', hsid, by simp, by simp, by omega, by simp⟩

/-- From a failed exchange on, no run prepares keys or writes NEWKEYS, the session id stays, and
the loop passes the close before recording the error. -/
theorem Failing.run {k : Nat} {t : HState ι} (hF : Failing e k s) (h : Run T ext s os t) :
    ∃ k', k ≤ k' ∧ Failing e k' t ∧ t.sessionID = s.sessionID ∧
      (∀ algs r, .prepare algs r ∉ os) ∧ (∀ p b, .write .newKeys p b ∉ os) ∧
      (k = 0 → 1 ≤ k' → .close ∈ os) := by
  induction h with
  | refl => exact ⟨k, le_rfl, hF, rfl, by simp, by simp, fun _ _ => by omega⟩
  | tail _ hst ih =>
    obtain ⟨k₁, hk₁, hF₁, hsid₁, hp₁, hn₁, hc₁⟩ := ih
    obtain ⟨k₂, hk₂, hF₂, hsid₂, hp₂, hn₂, hc₂, -⟩ := hF₁.step hst
    refine ⟨k₂, hk₁.trans hk₂, hF₂, hsid₂.trans hsid₁, fun algs r hm => ?_,
      fun p b hm => ?_, fun h0 h1 => ?_⟩
    · rcases List.mem_append.1 hm with hm | hm
      · exact hp₁ algs r hm
      · exact hp₂ algs r (List.mem_singleton.1 hm).symm
    · rcases List.mem_append.1 hm with hm | hm
      · exact hn₁ p b hm
      · exact hn₂ p b (List.mem_singleton.1 hm).symm
    · by_cases h1' : 1 ≤ k₁
      · exact List.mem_append_left _ (hc₁ h0 h1')
      · rw [hc₂ (by omega) h1]
        simp

omit [DecidableEq ι] in
theorem Transport.finish_client (hc : T.hostKeys = []) : T.finish ext r = T.client ext r := by
  simp [Transport.finish, hc]

theorem Run.prepared_accepted (hc : T.hostKeys = []) (h : Run T ext .init os s) {algs : Algorithms}
    (hm : .prepare algs r ∈ os) : HostKeyAccepted T ext r := by
  obtain ⟨-, r₀, hf, hr₀⟩ := h.sessionID_first.2.2 algs r hm
  rw [Transport.finish_client hc, Transport.client_eq_ok_iff] at hf
  rw [hr₀, hostKeyAccepted_with_sessionID]
  exact hf.2

/-- **The client keys only a checked exchange.** In the client role, along every run from a
fresh transport, every result handed to `prepareKeyChange`, the one whose `H` became the session
id, and the one before each NEWKEYS the loop writes (prepared right before it, with only callers'
quiet steps in between) passed `ParsePublicKey`, `verifyHostKeySignature` and the
`HostKeyCallback`.  When the key-exchange method returns a result that fails one of them, the
exchange fails with that check's error and the loop goes to close the connection: it can close
it and record the error as `writeError`, and from there no run prepares a key change or writes
NEWKEYS, the session id stays what it was, and the only write error recorded is that error,
after the close. -/
theorem client_host_key_checked (hc : T.hostKeys = []) :
    (∀ os (s : HState ι), Run T ext .init os s →
      (∀ algs r, .prepare algs r ∈ os → HostKeyAccepted T ext r) ∧
      (∀ h, s.sessionID = some h →
        ∃ algs r, .prepare algs r ∈ os ∧ r.h = h ∧ HostKeyAccepted T ext r) ∧
      ∀ a p b c, os = a ++ [.write .newKeys p b] ++ c →
        ∃ a₁ algs r a₂, a = a₁ ++ [.prepare algs r] ++ a₂ ∧ HostKeyAccepted T ext r ∧
          ∀ o ∈ a₂, o.Quiet) ∧
    (∀ (s : HState ι) first n r, Reachable T ext s → s.loop = .kexRun first n →
      ¬ HostKeyAccepted T ext r → ∃ e, T.finish ext r = .error e ∧ HostKeyRejected T ext r e ∧
        LoopStep T ext s .tau (s.setLoop (.dropConn first e)) ∧
        (∃ t, Run T ext (s.setLoop (.dropConn first e)) [.close, .fail e] t ∧
          t.writeError = some e) ∧
        ∀ os t, Run T ext (s.setLoop (.dropConn first e)) os t →
          (∀ algs r, .prepare algs r ∉ os) ∧ (∀ p b, .write .newKeys p b ∉ os) ∧
          t.sessionID = s.sessionID ∧
          ∀ a e' b, os = a ++ [.fail e'] ++ b → e' = e ∧ .close ∈ a ∧ t.writeError = some e) := by
  refine ⟨fun os s h => ⟨fun algs r hm => h.prepared_accepted hc hm, fun sid hs => ?_,
    fun a p b c hos => ?_⟩, fun s first n r hs hl hr => ?_⟩
  · obtain ⟨algs, r, hm, hh⟩ := firstPrepared_eq_some (h.sessionID_first.2.1 ▸ hs)
    exact ⟨algs, r, hm, hh, h.prepared_accepted hc hm⟩
  · subst hos
    obtain ⟨t, _, ha, hw, -⟩ := h.split_at
    obtain ⟨a₁, algs, r, a₂, rfl, hq⟩ := ha.newKeysW_prepared (hw.newKeys_write rfl).choose_spec
    exact ⟨a₁, algs, r, a₂, rfl,
      ha.prepared_accepted hc (show Obs.prepare algs r ∈ a₁ ++ [.prepare algs r] ++ a₂ by simp),
      hq⟩
  · obtain ⟨e, he⟩ : ∃ e, T.client ext r = .error e := by
      cases hcl : T.client ext r with
      | error e => exact ⟨e, rfl⟩
      | ok r' => exact absurd (Transport.client_eq_ok_iff.1 hcl).2 hr
    have hf : T.finish ext r = .error e := (Transport.finish_client hc).trans he
    have hstep : LoopStep T ext s .tau _ := LoopStep.kexDone hl r
    rw [hf] at hstep
    have hF : Failing e 0 (s.setLoop (.dropConn first e)) :=
      ⟨⟨first, rfl⟩, by simpa [hl, LPc.WriteErrorAt] using hs.inv.writeError_at⟩
    refine ⟨e, hf, Transport.client_eq_error_iff.1 he, hstep,
      ⟨_, .cons (.loop (.dropConn rfl)) (.cons (.loop (.setWriteError rfl)) (.refl _)), rfl⟩,
      fun os t ht => ?_⟩
    obtain ⟨-, -, -, hsid, hp, hn, -⟩ := hF.run ht
    refine ⟨hp, hn, hsid, fun a e' b hos => ?_⟩
    subst hos
    obtain ⟨t₁, t₂, h₁, h₂, h₃⟩ := ht.split_at
    obtain ⟨k₁, -, hF₁, -, -, -, hc₁⟩ := hF.run h₁
    obtain ⟨k₂, -, hF₂, -, -, -, -, hfail⟩ := hF₁.step h₂
    obtain ⟨rfl, rfl, rfl⟩ := hfail e' rfl
    obtain ⟨k₃, hk₃, hF₃, -⟩ := hF₂.run h₃
    exact ⟨rfl, hc₁ rfl le_rfl, hF₃.writeError hk₃⟩

theorem client_host_key_checked_sample :
    sampleClient.hostKeys = [] ∧
    (∀ os (s : HState (Fin 1)), Run sampleClient sampleExt .init os s →
      (∀ algs r, .prepare algs r ∈ os → HostKeyAccepted sampleClient sampleExt r) ∧
      (∀ h, s.sessionID = some h →
        ∃ algs r, .prepare algs r ∈ os ∧ r.h = h ∧ HostKeyAccepted sampleClient sampleExt r) ∧
      ∀ a p b c, os = a ++ [.write .newKeys p b] ++ c →
        ∃ a₁ algs r a₂, a = a₁ ++ [.prepare algs r] ++ a₂ ∧
          HostKeyAccepted sampleClient sampleExt r ∧ ∀ o ∈ a₂, o.Quiet) ∧
    (∀ (s : HState (Fin 1)) first n r, Reachable sampleClient sampleExt s →
      s.loop = .kexRun first n → ¬ HostKeyAccepted sampleClient sampleExt r →
      ∃ e, sampleClient.finish sampleExt r = .error e ∧
        HostKeyRejected sampleClient sampleExt r e ∧
        LoopStep sampleClient sampleExt s .tau (s.setLoop (.dropConn first e)) ∧
        (∃ t, Run sampleClient sampleExt (s.setLoop (.dropConn first e)) [.close, .fail e] t ∧
          t.writeError = some e) ∧
        ∀ os t, Run sampleClient sampleExt (s.setLoop (.dropConn first e)) os t →
          (∀ algs r, .prepare algs r ∉ os) ∧ (∀ p b, .write .newKeys p b ∉ os) ∧
          t.sessionID = s.sessionID ∧
          ∀ a e' b, os = a ++ [.fail e'] ++ b → e' = e ∧ .close ∈ a ∧ t.writeError = some e) :=
  ⟨rfl, client_host_key_checked rfl⟩

end ClientChecks

end Fasst.Ssh
