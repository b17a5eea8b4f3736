import Mathlib.Data.List.Forall2

/-!
# Fasst.Ssh.Negotiate — algorithm negotiation (`common.go`, `findCommon`, `findAgreedAlgorithms`)

`findCommon` walks the client's list in order and, for each entry, the server's list, and
returns the first client entry the server also offers; otherwise it fails with a message naming
the category and both lists, formatted as Go's `%v` prints a `[]string`.  `findAgreedAlgorithms`
runs it on the eight categories of two `KexInitMsg`s in source order and stops at the first
failure.  Errors are their message strings.

* `findCommon_eq_ok_iff`: `findCommon` succeeds exactly with `FirstCommon`, the client's first
  entry that the server offers anywhere in its list.
* `findAgreedAlgorithms_map_fields`: the do-block is one `List.mapM` of `findCommon` over
  `categories`, the eight (name, client list, server list) triples in source order; the
  traversal lemmas `mapM_eq_ok_iff`, `exists_mapM_eq_ok_iff` and `mapM_eq_error` then give
  `findAgreedAlgorithms_first_common`: when it succeeds, what each field is, that the server's
  order does not matter, and which category a failure reports.
-/

namespace Fasst.Ssh

/-- The fields of `KexInitMsg` that the handshake builds or reads (`messages.go` is not in
src/; the language lists and the reserved word are neither built nor read here). -/
structure KexInitMsg where
  cookie : List UInt8
  kexAlgos : List String
  serverHostKeyAlgos : List String
  ciphersClientServer : List String
  ciphersServerClient : List String
  macsClientServer : List String
  macsServerClient : List String
  compressionClientServer : List String
  compressionServerClient : List String
  firstKexFollows : Bool
  deriving DecidableEq, Repr

structure DirectionAlgorithms where
  cipher : String
  mac : String
  compression : String
  deriving DecidableEq, Repr

/-- The result of one negotiation; `w` is client to server, `r` server to client. -/
structure Algorithms where
  kex : String
  hostKey : String
  w : DirectionAlgorithms
  r : DirectionAlgorithms
  deriving DecidableEq, Repr

def goList (l : List String) : String := "[" ++ " ".intercalate l ++ "]"

/-- `findCommon`: the first client entry that the server also offers. -/
def findCommon (what : String) (client server : List String) : Except String String :=
  match client.find? (fun c => server.contains c) with
  | some c => .ok c
  | none => .error ("ssh: no common algorithm for " ++ what ++ "; client offered: " ++
      goList client ++ ", server offered: " ++ goList server)

/-- `findAgreedAlgorithms`: the eight categories in source order, stopping at the first
failure. -/
def findAgreedAlgorithms (clientKexInit serverKexInit : KexInitMsg) : Except String Algorithms := do
  let kex ← findCommon "key exchange" clientKexInit.kexAlgos serverKexInit.kexAlgos
  let hostKey ← findCommon "host key"
    clientKexInit.serverHostKeyAlgos serverKexInit.serverHostKeyAlgos
  let wCipher ← findCommon "client to server cipher"
    clientKexInit.ciphersClientServer serverKexInit.ciphersClientServer
  let rCipher ← findCommon "server to client cipher"
    clientKexInit.ciphersServerClient serverKexInit.ciphersServerClient
  let wMAC ← findCommon "client to server MAC"
    clientKexInit.macsClientServer serverKexInit.macsClientServer
  let rMAC ← findCommon "server to client MAC"
    clientKexInit.macsServerClient serverKexInit.macsServerClient
  let wCompression ← findCommon "client to server compression"
    clientKexInit.compressionClientServer serverKexInit.compressionClientServer
  let rCompression ← findCommon "server to client compression"
    clientKexInit.compressionServerClient serverKexInit.compressionServerClient
  return ⟨kex, hostKey, ⟨wCipher, wMAC, wCompression⟩, ⟨rCipher, rMAC, rCompression⟩⟩

/-! ### `findCommon` -/

theorem findCommon_eq_ok {what x : String} {client server : List String}
    (h : findCommon what client server = .ok x) :
    client.find? (fun c => server.contains c) = some x := by
  unfold findCommon at h
  split at h <;> simp_all

theorem findCommon_mem {what x : String} {client server : List String}
    (h : findCommon what client server = .ok x) : x ∈ client ∧ x ∈ server := by
  have h' := findCommon_eq_ok h
  exact ⟨List.mem_of_find?_eq_some h', by simpa using List.find?_some h'⟩

/-- `x` is the first entry of `client`, in client order, that occurs anywhere in `server`. -/
def FirstCommon (client server : List String) (x : String) : Prop :=
  x ∈ server ∧ ∃ pre post, client = pre ++ x :: post ∧ ∀ y ∈ pre, y ∉ server

/-- The spec of `findCommon`: it succeeds exactly with the first common entry. -/
theorem findCommon_eq_ok_iff {what x : String} {client server : List String} :
    findCommon what client server = .ok x ↔ FirstCommon client server x := by
  have h : findCommon what client server = .ok x ↔
      client.find? (fun c => server.contains c) = some x := by
    unfold findCommon
    split <;> rename_i hf <;> rw [hf] <;> simp
  rw [h, List.find?_eq_some, FirstCommon]
  simp

example : findCommon "host key" ["ssh-ed25519", "ssh-rsa"] ["ssh-rsa", "ssh-ed25519"] =
    .ok "ssh-ed25519" := rfl

theorem exists_findCommon_eq_ok_iff {what : String} {client server : List String} :
    (∃ x, findCommon what client server = .ok x) ↔ ∃ x ∈ client, x ∈ server := by
  unfold findCommon
  split <;> rename_i hf
  · simpa using ⟨_, List.mem_of_find?_eq_some hf, by simpa using List.find?_some hf⟩
  · simpa using hf

theorem findCommon_eq_error {what e : String} {client server : List String}
    (h : findCommon what client server = .error e) : ∀ x ∈ client, x ∉ server := by
  intro x hc hs
  obtain ⟨y, hy⟩ := exists_findCommon_eq_ok_iff.2 ⟨x, hc, hs⟩
  cases h.symm.trans hy

theorem FirstCommon.perm {client server server' : List String} {x : String}
    (h : FirstCommon client server x) (p : server.Perm server') : FirstCommon client server' x := by
  obtain ⟨hx, pre, post, hc, hpre⟩ := h
  exact ⟨p.subset hx, pre, post, hc, fun y hy hs => hpre y hy (p.symm.subset hs)⟩

theorem FirstCommon.eq_of_head {client server : List String} {x y : String}
    (h : FirstCommon client server x) (hy : client.head? = some y) (hs : y ∈ server) : x = y := by
  obtain ⟨-, pre, post, rfl, hpre⟩ := h
  cases pre with
  | nil => simpa using hy
  | cons z pre =>
    simp only [List.cons_append, List.head?_cons, Option.some.injEq] at hy
    exact absurd hs (hy ▸ hpre z (List.mem_cons_self _ _))

theorem FirstCommon.head_eq {client server : List String} {x : String}
    (h : FirstCommon client server x) (he : client.head? = server.head?) :
    client.head? = some x ∧ server.head? = some x := by
  obtain ⟨y, hy⟩ : ∃ y, client.head? = some y := by
    obtain ⟨-, pre, post, rfl, -⟩ := h
    cases pre <;> simp
  have hs : y ∈ server := List.mem_of_mem_head? (he ▸ hy)
  rw [← he, hy, h.eq_of_head hy hs]
  exact ⟨rfl, rfl⟩

/-! ### Traversals in `Except` -/

section Traversal

variable {α β ε : Type} {f : α → Except ε β}

theorem mapM_eq_ok_iff {l : List α} {ys : List β} :
    l.mapM f = .ok ys ↔ List.Forall₂ (fun x y => f x = .ok y) l ys := by
  induction l generalizing ys with
  | nil => cases ys <;> simp [-List.mapM, pure, Except.pure]
  | cons x l ih =>
    rw [List.mapM_cons]
    cases hx : f x <;> cases hl : l.mapM f <;> cases ys <;>
      simp [-List.mapM, bind, Except.bind, pure, Except.pure, hx, hl, ← ih]
theorem exists_mapM_eq_ok_iff {l : List α} :
    (∃ ys, l.mapM f = .ok ys) ↔ ∀ x ∈ l, ∃ y, f x = .ok y := by
  induction l with
  | nil => simp [-List.mapM, pure, Except.pure]
  | cons x l ih =>
    rw [List.mapM_cons, List.forall_mem_cons, ← ih]
    cases f x <;> cases l.mapM f <;> simp [bind, Except.bind, pure, Except.pure]
theorem mapM_eq_error {l : List α} {e : ε} (h : l.mapM f = .error e) :
    ∃ pre x post, l = pre ++ x :: post ∧ (∀ y ∈ pre, ∃ v, f y = .ok v) ∧ f x = .error e := by
  induction l with
  | nil => cases h
  | cons x l ih =>
    rw [List.mapM_cons] at h
    cases hx : f x with
    | error e' =>
      simp only [hx, bind, Except.bind, Except.error.injEq] at h
      exact ⟨[], x, l, rfl, by simp, h ▸ hx⟩
    | ok v =>
      cases hl : l.mapM f <;>
        simp only [hx, hl, bind, Except.bind, pure, Except.pure, reduceCtorEq] at h
      obtain ⟨pre, y, post, rfl, hpre, hy⟩ := ih (hl.trans h)
      exact ⟨x :: pre, y, post, rfl, by simpa [hx] using hpre, hy⟩

end Traversal

/-! ### `findAgreedAlgorithms` as one traversal of its categories -/

/-- The eight categories in the order `findAgreedAlgorithms` tries them: the name `findCommon`
reports, then the client's and the server's list of the same category and direction. -/
def categories (c s : KexInitMsg) : List (String × List String × List String) :=
  [("key exchange", c.kexAlgos, s.kexAlgos),
    ("host key", c.serverHostKeyAlgos, s.serverHostKeyAlgos),
    ("client to server cipher", c.ciphersClientServer, s.ciphersClientServer),
    ("server to client cipher", c.ciphersServerClient, s.ciphersServerClient),
    ("client to server MAC", c.macsClientServer, s.macsClientServer),
    ("server to client MAC", c.macsServerClient, s.macsServerClient),
    ("client to server compression", c.compressionClientServer, s.compressionClientServer),
    ("server to client compression", c.compressionServerClient, s.compressionServerClient)]

def Algorithms.fields (a : Algorithms) : List String :=
  [a.kex, a.hostKey, a.w.cipher, a.r.cipher, a.w.mac, a.r.mac, a.w.compression, a.r.compression]

theorem Algorithms.fields_injective : Function.Injective Algorithms.fields := by
  rintro ⟨_, _, ⟨_, _, _⟩, ⟨_, _, _⟩⟩ ⟨_, _, ⟨_, _, _⟩, ⟨_, _, _⟩⟩ h
  simp_all [Algorithms.fields]

/-- `s'` offers the same server lists as `s`, each possibly in another order. -/
def KexInitMsg.PermOffers (s s' : KexInitMsg) : Prop :=
  s.kexAlgos.Perm s'.kexAlgos ∧ s.serverHostKeyAlgos.Perm s'.serverHostKeyAlgos ∧
    s.ciphersClientServer.Perm s'.ciphersClientServer ∧
    s.ciphersServerClient.Perm s'.ciphersServerClient ∧
    s.macsClientServer.Perm s'.macsClientServer ∧ s.macsServerClient.Perm s'.macsServerClient ∧
    s.compressionClientServer.Perm s'.compressionClientServer ∧
    s.compressionServerClient.Perm s'.compressionServerClient

theorem findAgreedAlgorithms_map_fields (c s : KexInitMsg) :
    Algorithms.fields <$> findAgreedAlgorithms c s =
      (categories c s).mapM (fun k => findCommon k.1 k.2.1 k.2.2) := by
  simp only [findAgreedAlgorithms, categories, List.mapM_cons, List.mapM_nil, map_bind, map_pure,
    bind_assoc, pure_bind]
  rfl

theorem findAgreedAlgorithms_eq_ok_iff {c s : KexInitMsg} {a : Algorithms} :
    findAgreedAlgorithms c s = .ok a ↔
      List.Forall₂ (fun k x => FirstCommon k.2.1 k.2.2 x) (categories c s) a.fields := by
  have h : findAgreedAlgorithms c s = .ok a ↔
      Algorithms.fields <$> findAgreedAlgorithms c s = .ok a.fields := by
    cases findAgreedAlgorithms c s <;>
      simp [Functor.map, Except.map, Algorithms.fields_injective.eq_iff]
  rw [h, findAgreedAlgorithms_map_fields, mapM_eq_ok_iff]
  simp only [findCommon_eq_ok_iff]

theorem findAgreedAlgorithms_eq_error_iff {c s : KexInitMsg} {e : String} :
    findAgreedAlgorithms c s = .error e ↔
      (categories c s).mapM (fun k => findCommon k.1 k.2.1 k.2.2) = .error e := by
  rw [← findAgreedAlgorithms_map_fields]
  cases findAgreedAlgorithms c s <;> simp [Functor.map, Except.map]

theorem exists_findAgreedAlgorithms_eq_ok_iff {c s : KexInitMsg} :
    (∃ a, findAgreedAlgorithms c s = .ok a) ↔
      ∃ ys, (categories c s).mapM (fun k => findCommon k.1 k.2.1 k.2.2) = .ok ys := by
  rw [← findAgreedAlgorithms_map_fields]
  cases findAgreedAlgorithms c s <;> simp [Functor.map, Except.map]

theorem findAgreedAlgorithms_perm {c s s' : KexInitMsg} {a : Algorithms}
    (h : findAgreedAlgorithms c s = .ok a) (hp : s.PermOffers s') :
    findAgreedAlgorithms c s' = .ok a := by
  rw [findAgreedAlgorithms_eq_ok_iff] at h ⊢
  obtain ⟨p1, p2, p3, p4, p5, p6, p7, p8⟩ := hp
  simp only [categories, Algorithms.fields, List.forall₂_cons] at h ⊢
  exact ⟨h.1.perm p1, h.2.1.perm p2, h.2.2.1.perm p3, h.2.2.2.1.perm p4, h.2.2.2.2.1.perm p5,
    h.2.2.2.2.2.1.perm p6, h.2.2.2.2.2.2.1.perm p7, h.2.2.2.2.2.2.2.1.perm p8, h.2.2.2.2.2.2.2.2⟩

theorem findAgreedAlgorithms_kex_hostKey {c s : KexInitMsg} {a : Algorithms}
    (h : findAgreedAlgorithms c s = .ok a) :
    FirstCommon c.kexAlgos s.kexAlgos a.kex ∧
      FirstCommon c.serverHostKeyAlgos s.serverHostKeyAlgos a.hostKey := by
  have h := findAgreedAlgorithms_eq_ok_iff.1 h
  simp only [categories, Algorithms.fields, List.forall₂_cons] at h
  exact ⟨h.1, h.2.1⟩

/-- **Negotiation.**  `findAgreedAlgorithms` succeeds exactly when each of the eight categories
has an entry on both sides; each agreed field is then the client's first entry, in client order,
that the server offers in the same category and direction, and reordering the server's lists
keeps the result; a failure is `findCommon`'s error for the first category, in source order,
without a common entry. -/
theorem findAgreedAlgorithms_first_common (ci si : KexInitMsg) :
    ((∃ a, findAgreedAlgorithms ci si = .ok a) ↔
      ∀ k ∈ categories ci si, ∃ x ∈ k.2.1, x ∈ k.2.2) ∧
    (∀ a, findAgreedAlgorithms ci si = .ok a →
      List.Forall₂ (fun k x => FirstCommon k.2.1 k.2.2 x) (categories ci si) a.fields ∧
      ∀ si', si.PermOffers si' → findAgreedAlgorithms ci si' = .ok a) ∧
    (∀ e, findAgreedAlgorithms ci si = .error e →
      ∃ pre k post, categories ci si = pre ++ k :: post ∧
        (∀ j ∈ pre, ∃ x ∈ j.2.1, x ∈ j.2.2) ∧ (∀ x ∈ k.2.1, x ∉ k.2.2) ∧
        findCommon k.1 k.2.1 k.2.2 = .error e) := by
  refine ⟨?_, fun a h => ⟨findAgreedAlgorithms_eq_ok_iff.1 h, fun _ => findAgreedAlgorithms_perm h⟩,
    fun e h => ?_⟩
  · simp only [exists_findAgreedAlgorithms_eq_ok_iff, exists_mapM_eq_ok_iff,
      exists_findCommon_eq_ok_iff]
  · obtain ⟨pre, k, post, hc, hpre, hk⟩ := mapM_eq_error (findAgreedAlgorithms_eq_error_iff.1 h)
    exact ⟨pre, k, post, hc, fun j hj => exists_findCommon_eq_ok_iff.1 (hpre j hj),
      findCommon_eq_error hk, hk⟩

end Fasst.Ssh