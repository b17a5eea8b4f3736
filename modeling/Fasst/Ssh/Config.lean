import Fasst.Ssh.Handshake.Exchange

/-!
# Fasst.Ssh.Config — `Config.SetDefaults` and the algorithms a transport keys with

`SetDefaults` (`common.go`, lines 242–275) fills the slices a caller left `nil` with the
package's defaults, keeps only the ciphers that `cipherModes` has an entry for, and raises the
rekey threshold to at least `minRekeyThreshold`.  `NewClientConn` runs it on its copy of the
caller's configuration before the handshake reads any field.

* `filterCiphers_eq`: the filtering loop keeps exactly the supported ciphers, in order, and leaves
  the slice `nil` when there is none;
* `Run.prepared_offered`: along every run, the algorithms handed to `prepareKeyChange` are, in
  each category and direction, ones this side's KEXINIT offers (`KeysOffered`, a run invariant
  beside `Negotiating`);
* `prepared_algorithms_configured`: for a configuration through `SetDefaults`, those are the
  configured algorithms (the defaults for a `nil` slice), and both ciphers have a `cipherModes`
  entry.
-/

namespace Fasst.Ssh

/-! ## The defaults -/

/-- Modelled from the spec: the key-exchange names of `kex.go` (not in src/), as the key-exchange
methods are registered for SSH. -/
def kexAlgoCurve25519SHA256 : String := "curve25519-sha256@libssh.org"

def kexAlgoECDH256 : String := "ecdh-sha2-nistp256"

def kexAlgoECDH384 : String := "ecdh-sha2-nistp384"

def kexAlgoECDH521 : String := "ecdh-sha2-nistp521"

def kexAlgoDH14SHA1 : String := "diffie-hellman-group14-sha1"

def kexAlgoDH1SHA1 : String := "diffie-hellman-group1-sha1"

def defaultCiphers : List String :=
  ["aes128-ctr", "aes192-ctr", "aes256-ctr", "aes128-gcm@openssh.com", "arcfour256", "arcfour128"]

def defaultKexAlgos : List String :=
  [kexAlgoCurve25519SHA256, kexAlgoECDH256, kexAlgoECDH384, kexAlgoECDH521, kexAlgoDH14SHA1,
    kexAlgoDH1SHA1]

def supportedMACs : List String := ["hmac-sha2-256", "hmac-sha1", "hmac-sha1-96"]

def minRekeyThreshold : Nat := 256

/-- `Config` as a caller fills it in, before `SetDefaults`: a slice left `nil` is `none`.  `Rand`
only feeds the cookie, which the model takes as any 16 bytes; the other fields are not read by
`SetDefaults` or the handshake. -/
structure UserConfig where
  rekeyThreshold : Nat
  keyExchanges : Option (List String)
  ciphers : Option (List String)
  macs : Option (List String)
  helloOnly : Bool
  deriving DecidableEq, Repr

/-- The loop `for _, c := range c.Ciphers { if cipherModes[c] != nil { ciphers =
append(ciphers, c) } }` from `var ciphers []string`, which stays `nil` until the first append.
`cipherModes` (`cipher.go`, not in src/) is given by whether it has an entry for a name. -/
def filterCiphers (cipherModes : String → Bool) (cs : List String) : Option (List String) :=
  cs.foldl (fun ciphers c => if cipherModes c then some (ciphers.getD [] ++ [c]) else ciphers) none

def UserConfig.setDefaults (cipherModes : String → Bool) (c : UserConfig) : UserConfig :=
  let rekeyThreshold := if c.rekeyThreshold = 0 then 1 <<< 30 else c.rekeyThreshold
  { c with
    ciphers := filterCiphers cipherModes (c.ciphers.getD defaultCiphers)
    keyExchanges := some (c.keyExchanges.getD defaultKexAlgos)
    macs := some (c.macs.getD supportedMACs)
    rekeyThreshold :=
      if rekeyThreshold < minRekeyThreshold then minRekeyThreshold else rekeyThreshold }

/-- The configuration as the handshake reads it: a `nil` slice ranges over nothing. -/
def UserConfig.toConfig (c : UserConfig) : Config :=
  ⟨c.rekeyThreshold, c.keyExchanges.getD [], c.ciphers.getD [], c.macs.getD [], c.helloOnly⟩

section SetDefaults

variable (cipherModes : String → Bool) (c : UserConfig) (cs : List String)

theorem filterCiphers_foldl (acc : Option (List String)) :
    cs.foldl (fun ciphers c => if cipherModes c then some (ciphers.getD [] ++ [c]) else ciphers)
        acc =
      if cs.filter cipherModes = [] then acc else some (acc.getD [] ++ cs.filter cipherModes) := by
  induction cs generalizing acc with
  | nil => simp
  | cons x cs ih =>
    rw [List.foldl_cons, ih]
    by_cases hx : cipherModes x <;> by_cases hn : cs.filter cipherModes = [] <;>
      simp [hx, hn, List.filter_cons]

/-- The filtering loop keeps the ciphers `cipherModes` has an entry for, in order, and leaves the
slice `nil` when it has none of them. -/
theorem filterCiphers_eq : filterCiphers cipherModes cs =
    if cs.filter cipherModes = [] then none else some (cs.filter cipherModes) := by
  simp [filterCiphers, filterCiphers_foldl]

@[simp] theorem filterCiphers_getD : (filterCiphers cipherModes cs).getD [] = cs.filter cipherModes := by
  rw [filterCiphers_eq]; split <;> simp_all

@[simp] theorem setDefaults_toConfig_ciphers :
    (c.setDefaults cipherModes).toConfig.ciphers = (c.ciphers.getD defaultCiphers).filter cipherModes :=
  filterCiphers_getD _ _

@[simp] theorem setDefaults_toConfig_keyExchanges :
    (c.setDefaults cipherModes).toConfig.keyExchanges = c.keyExchanges.getD defaultKexAlgos := rfl

@[simp] theorem setDefaults_toConfig_macs :
    (c.setDefaults cipherModes).toConfig.macs = c.macs.getD supportedMACs := rfl

theorem setDefaults_rekeyThreshold : (c.setDefaults cipherModes).rekeyThreshold =
    max minRekeyThreshold (if c.rekeyThreshold = 0 then 1 <<< 30 else c.rekeyThreshold) := by
  by_cases h0 : c.rekeyThreshold = 0
  · simp only [UserConfig.setDefaults, minRekeyThreshold, h0, if_true]
    decide
  · simp only [UserConfig.setDefaults, minRekeyThreshold, h0, if_false]
    split <;> omega

end SetDefaults

/-! ## What the two KEXINITs of an agreement offer -/

/-- Each algorithm of `a` is in the list of its category and direction in the KEXINIT `m`. -/
def Algorithms.OfferedBy (a : Algorithms) (m : KexInitMsg) : Prop :=
  a.kex ∈ m.kexAlgos ∧ a.hostKey ∈ m.serverHostKeyAlgos ∧
    a.w.cipher ∈ m.ciphersClientServer ∧ a.r.cipher ∈ m.ciphersServerClient ∧
    a.w.mac ∈ m.macsClientServer ∧ a.r.mac ∈ m.macsServerClient ∧
    a.w.compression ∈ m.compressionClientServer ∧ a.r.compression ∈ m.compressionServerClient

theorem FirstCommon.mem_client {client server : List String} {x : String}
    (h : FirstCommon client server x) : x ∈ client := by
  obtain ⟨-, pre, post, rfl, -⟩ := h
  simp

theorem findAgreedAlgorithms_offered {ci si : KexInitMsg} {a : Algorithms}
    (h : findAgreedAlgorithms ci si = .ok a) : a.OfferedBy ci ∧ a.OfferedBy si := by
  have h := findAgreedAlgorithms_eq_ok_iff.1 h
  simp only [categories, Algorithms.fields, List.forall₂_cons] at h
  obtain ⟨h1, h2, h3, h4, h5, h6, h7, h8, -⟩ := h
  exact ⟨⟨h1.mem_client, h2.mem_client, h3.mem_client, h4.mem_client, h5.mem_client,
      h6.mem_client, h7.mem_client, h8.mem_client⟩,
    ⟨h1.1, h2.1, h3.1, h4.1, h5.1, h6.1, h7.1, h8.1⟩⟩

variable {ι : Type} {T : Transport} {ext : Ext} {s s' : HState ι} {o : Obs ι}

theorem Transport.negotiate_offered {my : KexInitMsg} {p : Packet} {n : Transport.Negotiated}
    (h : T.negotiate ext my p = .ok n) : n.algs.OfferedBy my := by
  obtain ⟨_, _, hrole, hagree, _⟩ := Transport.negotiate_eq_ok h
  have ho := findAgreedAlgorithms_offered hagree
  rcases hrole with ⟨-, hc, -⟩ | ⟨-, -, hs⟩
  · exact hc ▸ ho.1
  · exact hs ▸ ho.2

/-! ## The algorithms handed to `prepareKeyChange` -/

/-- The loop's pending `prepareKeyChange` uses algorithms that a KEXINIT this side builds
offers. -/
def KeysOffered (T : Transport) (s : HState ι) : Prop :=
  ∀ first algs r, s.loop = .keys first algs r → ∃ c, algs.OfferedBy (T.kexInitMsg c)

variable [DecidableEq ι]

theorem KeysOffered.step (hN : Negotiating T ext s) (hK : KeysOffered T s)
    (h : Step T ext s o s') : KeysOffered T s' := by
  intro first algs r hl
  cases h with
  | user i h => exact hK first algs r (h.frame.2.1 ▸ hl)
  | loop h =>
    cases h
    case kexDone f n hs r₀ =>
      simp only [setLoop_loop] at hl
      split at hl
      · cases hl
      · cases hl
        obtain ⟨c, p, hn⟩ := hN.2 _ n (.inr hs)
        exact ⟨c, Transport.negotiate_offered hn⟩
    case negotiate =>
      simp only [setLoop_loop] at hl
      split at hl
      · cases hl
      · split at hl
        · cases hl
        · exact absurd hl afterGuess_ne_keys
    case guess =>
      simp only [setLoop_loop] at hl
      split at hl
      · cases hl
      · exact absurd hl afterGuess_ne_keys
    all_goals (clear hN hK; (repeat' split at hl) <;> simp_all)

theorem Run.keysOffered {os : List (Obs ι)} (h : Run T ext .init os s) : KeysOffered T s := by
  induction h with
  | refl => intro _ _ _ hl; simp [HState.init] at hl
  | tail hr hst ih => exact ih.step (Reachable.negotiating ⟨_, hr⟩) hst

theorem Step.prepare_keys {algs : Algorithms} {r : KexResult} (h : Step T ext s o s')
    (ho : o = .prepare algs r) : ∃ first r₀, s.loop = .keys first algs r₀ := by
  cases h with
  | loop h => cases h <;> simp_all
  | user i h => cases h <;> simp_all

/-- Along every run, the algorithms handed to `prepareKeyChange` are offered by this side. -/
theorem Run.prepared_offered {os : List (Obs ι)} {algs : Algorithms} {r : KexResult}
    (h : Run T ext .init os s) (hm : .prepare algs r ∈ os) :
    ∃ c, algs.OfferedBy (T.kexInitMsg c) := by
  induction h with
  | refl => cases hm
  | tail hr hst ih =>
    rcases List.mem_append.1 hm with hm | hm
    · exact ih hm
    · obtain ⟨f, r₀, hl⟩ := hst.prepare_keys (List.mem_singleton.1 hm).symm
      exact hr.keysOffered f algs r₀ hl

/-- **A transport keys only configured algorithms.** For a transport whose configuration went
through `SetDefaults`, along every run, every algorithm set handed to `prepareKeyChange` has the
key exchange from the configured list (`defaultKexAlgos` when it was `nil`), both ciphers from the
configured list (`defaultCiphers` when `nil`) and with a `cipherModes` entry, both MACs from the
configured list (`supportedMACs` when `nil`), no compression, and a host-key algorithm that the
client accepts or, in the server role, the type of one of its host keys. -/
theorem prepared_algorithms_configured (cipherModes : String → Bool) (c : UserConfig)
    {os : List (Obs ι)} {algs : Algorithms} {r : KexResult}
    (hT : T.config = (c.setDefaults cipherModes).toConfig) (h : Run T ext .init os s)
    (hm : .prepare algs r ∈ os) :
    algs.kex ∈ c.keyExchanges.getD defaultKexAlgos ∧
      (algs.w.cipher ∈ c.ciphers.getD defaultCiphers ∧ cipherModes algs.w.cipher) ∧
      (algs.r.cipher ∈ c.ciphers.getD defaultCiphers ∧ cipherModes algs.r.cipher) ∧
      algs.w.mac ∈ c.macs.getD supportedMACs ∧ algs.r.mac ∈ c.macs.getD supportedMACs ∧
      algs.w.compression = "none" ∧ algs.r.compression = "none" ∧
      algs.hostKey ∈ (if T.hostKeys.length > 0 then T.hostKeys.map (·.publicKey.type)
        else T.hostKeyAlgorithms) := by
  obtain ⟨_, hk, hh, hw, hr, hwm, hrm, hwc, hrc⟩ := h.prepared_offered hm
  simp only [Transport.kexInitMsg, hT, setDefaults_toConfig_keyExchanges,
    setDefaults_toConfig_ciphers, setDefaults_toConfig_macs, List.mem_filter,
    supportedCompressions, List.mem_singleton] at hk hw hr hwm hrm hwc hrc hh
  exact ⟨hk, hw, hr, hwm, hrm, hwc, hrc, hh⟩

theorem prepared_algorithms_configured_sample :
    ∃ (os : List (Obs (Fin 1))) (s : HState (Fin 1)) (algs : Algorithms) (r : KexResult),
      sampleServer.config =
        (UserConfig.setDefaults (· == "aes128-ctr")
          ⟨256, some ["curve25519-sha256"], some ["aes128-ctr"], some ["hmac-sha2-256"],
            false⟩).toConfig ∧
      Run sampleServer sampleExt .init os s ∧ .prepare algs r ∈ os ∧
      algs.kex ∈ ["curve25519-sha256"] ∧
      (algs.w.cipher ∈ ["aes128-ctr"] ∧ (algs.w.cipher == "aes128-ctr") = true) ∧
      (algs.r.cipher ∈ ["aes128-ctr"] ∧ (algs.r.cipher == "aes128-ctr") = true) ∧
      algs.w.mac ∈ ["hmac-sha2-256"] ∧ algs.r.mac ∈ ["hmac-sha2-256"] ∧
      algs.w.compression = "none" ∧ algs.r.compression = "none" ∧
      algs.hostKey ∈ (if sampleServer.hostKeys.length > 0 then
        sampleServer.hostKeys.map (·.publicKey.type) else sampleServer.hostKeyAlgorithms) := by
  obtain ⟨n, hn, hd, hk⟩ := sample_negotiate
  have h := exchange_run (T := sampleServer) (s := (HState.init : HState (Fin 1)))
    (c := sampleCookie) (r := sampleResult) rfl (by decide) rfl rfl rfl rfl hn hd hk rfl
  have hT : sampleServer.config =
      (UserConfig.setDefaults (· == "aes128-ctr")
        ⟨256, some ["curve25519-sha256"], some ["aes128-ctr"], some ["hmac-sha2-256"],
          false⟩).toConfig := rfl
  refine ⟨_, _, n.algs, { sampleResult with sessionID := sampleResult.h }, hT, h, ?hm,
    prepared_algorithms_configured (· == "aes128-ctr") _ hT h ?hm⟩
  case hm => simp [HState.init]

end Fasst.Ssh
