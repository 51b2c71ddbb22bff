import Dish.Wire.SessionCrypto
import Dish.Moonlight.Pairing

/-!
This module contains the computations of a pairing run.
-/

open Wire Transition

namespace Moonlight

variable {phase : PairPhase}

structure OpenSsl where
  sha256 : List UInt8 → List UInt8
  aesEcbEncrypt : (key data : List UInt8) → Option (List UInt8)
  aesEcbDecrypt : (key data : List UInt8) → Option (List UInt8)
  certSignature : List UInt8 → Option (List UInt8)
  certPublicKeyPem : List UInt8 → Option (List UInt8)
  rsaSign : (privateKeyPem msg : List UInt8) → Option (List UInt8)
  rsaVerify : (publicKeyPem msg sig : List UInt8) → Bool
  toDer : List UInt8 → String

def kRsaSigLen : Nat := 256

def hexEncode (bytes : List UInt8) : String :=
  (toHex bytes).map Char.toUpper

structure Identity where
  certPem : List UInt8
  privateKeyPem : List UInt8
  deriving DecidableEq

inductive PairError where
  | BadServerCert
  | BadResponse
  | ServerSignature
  | CryptoFailure
  | PinMismatch
  deriving DecidableEq

structure PairingInputs where
  identity : Identity
  pin : List UInt8
  salt : List UInt8
  clientChallenge : List UInt8
  clientSecret : List UInt8
  deriving DecidableEq

structure PairingKeys extends PairingInputs where
  aesKey : List UInt8
  clientCertSignature : List UInt8
  serverCertPem : List UInt8 := []
  serverCertSignature : List UInt8 := []
  serverPublicKeyPem : List UInt8 := []
  serverHash : List UInt8 := []
  serverChallenge : List UInt8 := []
  received : List String := []
  deriving DecidableEq

def genAesKey (ssl : OpenSsl) (salt pin : List UInt8) : List UInt8 :=
  (ssl.sha256 (salt ++ pin)).take 16

namespace PairingKeys

def make (ssl : OpenSsl) (inputs : PairingInputs) : Except PairError PairingKeys :=
  if inputs.salt.length ≠ 16 ∨ inputs.clientChallenge.length ≠ 16 ∨ inputs.clientSecret.length ≠ 16 then
    .error .CryptoFailure
  else
    match ssl.certSignature inputs.identity.certPem with
    | none => .error .CryptoFailure
    | some clientCertSignature =>
      .ok { inputs with aesKey := genAesKey ssl inputs.salt inputs.pin, clientCertSignature }

def consumeServerCert (ssl : OpenSsl) (pc : PairingKeys) (plaincertHex : String)
    : Except PairError PairingKeys :=
  match fromHex plaincertHex with
  | none => .error .BadServerCert
  | some serverCertPem =>
    match ssl.certSignature serverCertPem, ssl.certPublicKeyPem serverCertPem with
    | some serverCertSignature, some serverPublicKeyPem =>
      .ok { pc with
        serverCertPem, serverCertSignature, serverPublicKeyPem
        received := pc.received ++ [plaincertHex] }
    | _, _ => .error .BadServerCert

def clientChallengeHex (ssl : OpenSsl) (pc : PairingKeys) : String :=
  ((ssl.aesEcbEncrypt pc.aesKey pc.clientChallenge).map hexEncode).getD ""

def consumeChallengeResponse (ssl : OpenSsl) (pc : PairingKeys) (challengeResponseHex : String)
    : Except PairError PairingKeys :=
  match (fromHex challengeResponseHex).bind (ssl.aesEcbDecrypt pc.aesKey) with
  | none => .error .BadResponse
  | some dec =>
    if dec.length < 48 then .error .BadResponse
    else
      .ok { pc with
        serverHash := dec.take 32
        serverChallenge := (dec.drop 32).take 16
        received := pc.received ++ [challengeResponseHex] }

def serverChallengeRespHex (ssl : OpenSsl) (pc : PairingKeys) : String :=
  if pc.serverChallenge.length ≠ 16 then ""
  else
    let clientHash := ssl.sha256 (pc.serverChallenge ++ pc.clientCertSignature ++ pc.clientSecret)
    ((ssl.aesEcbEncrypt pc.aesKey clientHash).map hexEncode).getD ""

def consumePairingSecret (ssl : OpenSsl) (pc : PairingKeys) (pairingSecretHex : String)
    : Except PairError PairingKeys :=
  match fromHex pairingSecretHex with
  | none => .error .BadResponse
  | some blob =>
    if blob.length < 16 + kRsaSigLen then .error .BadResponse
    else
      let serverSecret := blob.take 16
      let serverSig := (blob.drop 16).take kRsaSigLen
      if !ssl.rsaVerify pc.serverPublicKeyPem serverSecret serverSig then .error .ServerSignature
      else if ssl.sha256 (pc.clientChallenge ++ pc.serverCertSignature ++ serverSecret) ≠ pc.serverHash
      then .error .PinMismatch
      else .ok { pc with received := pc.received ++ [pairingSecretHex] }

def clientPairingSecretHex (ssl : OpenSsl) (pc : PairingKeys) : String :=
  match ssl.rsaSign pc.identity.privateKeyPem pc.clientSecret with
  | some sig => if sig.length ≠ kRsaSigLen then "" else hexEncode (pc.clientSecret ++ sig)
  | none => ""

end PairingKeys

def pairingClient (ssl : OpenSsl) : PairingClient PairingKeys where
  consumeServerCert pc text := (pc.consumeServerCert ssl text).toOption
  consumeChallengeResponse pc text := (pc.consumeChallengeResponse ssl text).toOption
  consumePairingSecret pc text := (pc.consumePairingSecret ssl text).toOption
  serverCert pc := ssl.toDer pc.serverCertPem

namespace PairRequest

def query (ssl : OpenSsl) (q : PairRequest PairingKeys) : List (String × String) :=
  match q.phase with
  | .phase1 =>
    [("phrase", "getservercert"), ("salt", hexEncode q.run.pc.salt),
      ("clientcert", hexEncode q.run.pc.identity.certPem)]
  | .phase2 => [("clientchallenge", q.run.pc.clientChallengeHex ssl)]
  | .phase3 => [("serverchallengeresp", q.run.pc.serverChallengeRespHex ssl)]
  | .phase4 => [("clientpairingsecret", q.run.pc.clientPairingSecretHex ssl)]
  | .phase5 => [("phrase", "pairchallenge")]

def trusts (ssl : OpenSsl) (q : PairRequest PairingKeys) : Option String :=
  if q.phase = .phase5 then some (ssl.toDer q.run.pc.serverCertPem) else none

end PairRequest

def PairingSession.Act.make {ι κ : Type} (f : ι → Option κ) : Act ι → Act κ
  | .pair pc => .pair (pc.bind f)
  | .cancelPairing => .cancelPairing
  | .pairHost uniqueIdChanged pc => .pairHost uniqueIdChanged (pc.bind f)
  | .cancelHostPairing => .cancelHostPairing
  | .reply i r => .reply i r
  | .quit => .quit
  | .signal event => .signal event
  | .presents der => .presents der

namespace PairingSession

section

variable {κ : Type} {client : PairingClient κ} {I : PairPhase → κ → Prop}
  {s s' : PairingSession κ} {q : PairRequest κ} {r : MoonlightXmlResponse}

structure HandedOn (client : PairingClient κ) (I : PairPhase → κ → Prop) : Prop where
  serverCert : ∀ pc text pc', I .phase1 pc → client.consumeServerCert pc text = some pc' → I .phase2 pc'
  challengeResponse : ∀ pc text pc', I .phase2 pc →
    client.consumeChallengeResponse pc text = some pc' → I .phase3 pc'
  pairingSecret : ∀ pc text pc', I .phase3 pc →
    client.consumePairingSecret pc text = some pc' → I .phase4 pc'
  paired : ∀ pc, I .phase4 pc → I .phase5 pc

def Asks (I : PairPhase → κ → Prop) (s : PairingSession κ) : Prop :=
  ∀ q ∈ s.requests, I q.phase q.run.pc

def Act.begins : Act κ → Option κ
  | .pair pc | .pairHost _ pc => pc
  | .cancelPairing | .cancelHostPairing | .reply _ _ | .quit | .signal _ | .presents _ => none

theorem Asks.of_requests (h : s.Asks I) (hrequests : s'.requests = s.requests) : s'.Asks I := by
  unfold Asks
  rw [hrequests]
  exact h

theorem Asks.request (h : s.Asks I) {run : PairingRun κ} (hnew : I phase run.pc)
    : (s.request run phase).Asks I := by
  intro q hq
  rcases List.mem_append.mp hq with hold | hlast
  . exact h q hold
  . rw [List.mem_singleton.mp hlast]
    exact hnew

theorem Asks.onPairPhase (h : s.Asks I) {run : PairingRun κ} {next : Option (PairingSession κ)}
    (hnext : ∀ s', next = some s' → s'.Asks I)
    : (s.onPairPhase run r next).Asks I := by
  unfold PairingSession.onPairPhase
  split
  . exact h
  . split
    . exact h.of_requests rfl
    . cases next with
      | none => exact h.of_requests rfl
      | some s' => exact hnext s' rfl

theorem Asks.consumed (h : s.Asks I) {run : PairingRun κ} {text : String}
    {consume : κ → String → Option κ}
    (hnew : ∀ pc', consume run.pc text = some pc' → I phase pc')
    : ∀ s', s.consumed run text consume phase = some s' → s'.Asks I := by
  intro s' hs'
  unfold PairingSession.consumed at hs'
  split at hs'
  . contradiction
  . obtain ⟨pc', hconsume, rfl⟩ := Option.map_eq_some_iff.mp hs'
    exact h.request (hnew pc' hconsume)

theorem requests_proven (client : PairingClient κ) (s : PairingSession κ) (run : PairingRun κ)
    : (proven client s run).requests = s.requests := by
  unfold proven
  dsimp only
  split <;> rfl

theorem Asks.onPairReply (h : s.Asks I) (hclient : HandedOn client I) (hq : I q.phase q.run.pc)
    : (onPairReply client s q r).Asks I := by
  unfold PairingSession.onPairReply
  split
  next hphase =>
    rw [hphase] at hq
    exact h.onPairPhase (h.consumed fun pc' => hclient.serverCert _ _ pc' hq)
  next hphase =>
    rw [hphase] at hq
    exact h.onPairPhase (h.consumed fun pc' => hclient.challengeResponse _ _ pc' hq)
  next hphase =>
    rw [hphase] at hq
    exact h.onPairPhase (h.consumed fun pc' => hclient.pairingSecret _ _ pc' hq)
  next hphase =>
    rw [hphase] at hq
    apply h.onPairPhase
    intro s' hs'
    split at hs'
    . cases hs'
      exact h.request (hclient.paired _ hq)
    . contradiction
  next hphase =>
    apply h.onPairPhase
    intro s' hs'
    split at hs'
    . cases hs'
      exact h.of_requests (requests_proven client s q.run)
    . contradiction

theorem Asks.pair (h : s.Asks I) {pc : Option κ} (hnew : ∀ pc', pc = some pc' → I .phase1 pc')
    : (s.pair pc).Asks I := by
  unfold PairingSession.pair
  split
  . exact h.of_requests rfl
  . cases pc with
    | none => exact h.of_requests rfl
    | some pc' =>
      apply Asks.request
      . exact h.of_requests rfl
      . exact hnew pc' rfl

theorem requests_clearForNewPairing (uniqueIdChanged : Bool)
    : (s.clearForNewPairing uniqueIdChanged).requests = s.requests := by
  unfold clearForNewPairing
  dsimp only
  split <;> split <;> first | rfl | exact cancelPairing_eqs.1

theorem Asks.step {a : Act κ} (h : s.Asks I) (hclient : HandedOn client I)
    (hnew : ∀ pc, a.begins = some pc → I .phase1 pc) (hstep : s.step client a = some s')
    : s'.Asks I := by
  cases a with
  | pair pc =>
    cases hstep
    exact h.pair hnew
  | cancelPairing | cancelHostPairing =>
    cases hstep
    exact h.of_requests (cancelPairing_eqs).1
  | pairHost uniqueIdChanged pc =>
    cases hstep
    refine Asks.pair ?_ hnew
    exact h.of_requests (requests_clearForNewPairing uniqueIdChanged)
  | reply i r =>
    obtain ⟨q, hi, rfl⟩ := Option.map_eq_some_iff.mp hstep
    apply Asks.onPairReply _ hclient
    . exact h q (List.mem_of_getElem? hi)
    . intro q' hq'
      exact h q' (List.mem_of_mem_eraseIdx hq')
  | quit =>
    cases hstep
    unfold quit
    split <;> exact h.of_requests rfl
  | signal event =>
    obtain ⟨_, hstep⟩ := Option.ite_none_left_eq_some.mp hstep
    cases hstep
    exact h.of_requests rfl
  | presents der =>
    cases hstep
    exact h.of_requests (pinVerifier_eqs).1

theorem asks_of_run {acts : List (Act κ)} (hclient : HandedOn client I) (h : s.Asks I)
    (hnew : ∀ a ∈ acts, ∀ pc, a.begins = some pc → I .phase1 pc) (hrun : s.run client acts = some s')
    : s'.Asks I := by
  refine invariant_of_along (P := fun _ a => ∀ pc, a.begins = some pc → I .phase1 pc) ?_ h
    ?_ hrun
  . intro s a s' h hnew hstep
    exact h.step hclient hnew hstep
  . exact along_of_forall fun a ha _ => hnew a ha

theorem onPairPhase_trust {run : PairingRun κ} {next : Option (PairingSession κ)}
    (h : (s.onPairPhase run r next).paired ≠ s.paired ∨ (s.onPairPhase run r next).pinned ≠ s.pinned)
    : r.reachable = true ∧ r.ok = true ∧ ∃ s', next = some s' ∧ s.onPairPhase run r next = s' ∧
        (s'.paired ≠ s.paired ∨ s'.pinned ≠ s.pinned) := by
  unfold PairingSession.onPairPhase at h ⊢
  split at h
  . simp at h
  next hlive =>
    rw [if_neg hlive]
    split at h
    . simp [pairFailed, pairingFinished, dispatch] at h
    next hok =>
      rw [if_neg hok]
      cases next with
      | none => simp [pairFailed, pairingFinished, dispatch] at h
      | some s' =>
        simp only [Bool.or_eq_true, Bool.not_eq_true', not_or, Bool.not_eq_false] at hok
        exact ⟨hok.1, hok.2, s', rfl, rfl, h⟩

theorem consumed_trust {run : PairingRun κ} {text : String} {consume : κ → String → Option κ} (h : s.consumed run text consume phase = some s')
    : s'.paired = s.paired ∧ s'.pinned = s.pinned := by
  unfold PairingSession.consumed at h
  split at h
  . contradiction
  . obtain ⟨pc', _, rfl⟩ := Option.map_eq_some_iff.mp h
    exact ⟨rfl, rfl⟩

theorem onPairReply_trust
    (h : (onPairReply client s q r).paired ≠ s.paired ∨ (onPairReply client s q r).pinned ≠ s.pinned)
    : q.phase = .phase5 ∧ r.reachable = true ∧ r.ok = true ∧ r.paired = true ∧
      onPairReply client s q r = proven client s q.run := by
  unfold PairingSession.onPairReply at h ⊢
  split at h
  . obtain ⟨_, _, s', hs', _, hchanged⟩ := onPairPhase_trust h
    simp [consumed_trust hs'] at hchanged
  . obtain ⟨_, _, s', hs', _, hchanged⟩ := onPairPhase_trust h
    simp [consumed_trust hs'] at hchanged
  . obtain ⟨_, _, s', hs', _, hchanged⟩ := onPairPhase_trust h
    simp [consumed_trust hs'] at hchanged
  . obtain ⟨_, _, s', hs', _, hchanged⟩ := onPairPhase_trust h
    split at hs'
    . cases hs'
      simp [PairingSession.request] at hchanged
    . contradiction
  next hphase =>
    obtain ⟨hreachable, hok, s', hs', heq, _⟩ := onPairPhase_trust h
    split at hs'
    next hpaired =>
      cases hs'
      exact ⟨hphase, hreachable, hok, hpaired, heq⟩
    . contradiction

end

end PairingSession

section

variable {ssl : OpenSsl} {pc pc' : PairingKeys} {text : String}

def PairingKeys.HasCert (ssl : OpenSsl) (pc : PairingKeys) (plaincert : String) : Prop :=
  fromHex plaincert = some pc.serverCertPem ∧
    ssl.certSignature pc.serverCertPem = some pc.serverCertSignature ∧
    ssl.certPublicKeyPem pc.serverCertPem = some pc.serverPublicKeyPem

def PairingKeys.HasHash (ssl : OpenSsl) (pc : PairingKeys) (challengeresponse : String) : Prop :=
  ∃ blob dec, fromHex challengeresponse = some blob ∧
    ssl.aesEcbDecrypt (genAesKey ssl pc.salt pc.pin) blob = some dec ∧ 48 ≤ dec.length ∧
    pc.serverHash = dec.take 32

def PairingKeys.HasSecret (ssl : OpenSsl) (pc : PairingKeys) (pairingsecret : String) : Prop :=
  ∃ blob, fromHex pairingsecret = some blob ∧ 16 + kRsaSigLen ≤ blob.length ∧
    ssl.rsaVerify pc.serverPublicKeyPem (blob.take 16) ((blob.drop 16).take kRsaSigLen) = true ∧
    ssl.sha256 (pc.clientChallenge ++ pc.serverCertSignature ++ blob.take 16) = pc.serverHash

def PairingKeys.Heard (ssl : OpenSsl) (phase : PairPhase) (pc : PairingKeys) : Prop :=
  pc.aesKey = genAesKey ssl pc.salt pc.pin ∧
    match phase with
    | .phase1 => pc.received = []
    | .phase2 => ∃ cert, pc.received = [cert] ∧ pc.HasCert ssl cert
    | .phase3 => ∃ cert hash, pc.received = [cert, hash] ∧ pc.HasCert ssl cert ∧ pc.HasHash ssl hash
    | .phase4 | .phase5 => ∃ cert hash secret, pc.received = [cert, hash, secret] ∧
        pc.HasCert ssl cert ∧ pc.HasHash ssl hash ∧ pc.HasSecret ssl secret

theorem heard_make {inputs : PairingInputs} (h : (PairingKeys.make ssl inputs).toOption = some pc)
    : pc.Heard ssl .phase1 := by
  unfold PairingKeys.make at h
  split at h
  . contradiction
  . split at h
    . contradiction
    . cases h
      exact ⟨rfl, rfl⟩

theorem heard_serverCert (h : pc.Heard ssl .phase1)
    (hconsume : (pc.consumeServerCert ssl text).toOption = some pc')
    : pc'.Heard ssl .phase2 := by
  obtain ⟨hkey, hreceived⟩ := h
  unfold PairingKeys.consumeServerCert at hconsume
  split at hconsume
  . contradiction
  next cert hcert =>
    split at hconsume
    next signature publicKey hsignature hpublicKey =>
      cases hconsume
      exact ⟨hkey, text, by simp [hreceived], hcert, hsignature, hpublicKey⟩
    . contradiction

theorem heard_challengeResponse (h : pc.Heard ssl .phase2)
    (hconsume : (pc.consumeChallengeResponse ssl text).toOption = some pc')
    : pc'.Heard ssl .phase3 := by
  obtain ⟨hkey, cert, hreceived, hcert⟩ := h
  unfold PairingKeys.consumeChallengeResponse at hconsume
  split at hconsume
  . contradiction
  next dec hdec =>
    obtain ⟨blob, hblob, hdec⟩ := Option.bind_eq_some_iff.mp hdec
    split at hconsume
    . contradiction
    next hlength =>
      cases hconsume
      refine ⟨hkey, cert, text, by simp [hreceived], hcert, blob, dec, hblob, ?_⟩
      rw [hkey] at hdec
      exact ⟨hdec, Nat.le_of_not_lt hlength, rfl⟩

theorem heard_pairingSecret (h : pc.Heard ssl .phase3)
    (hconsume : (pc.consumePairingSecret ssl text).toOption = some pc')
    : pc'.Heard ssl .phase4 := by
  obtain ⟨hkey, cert, hash, hreceived, hcert, hhash⟩ := h
  unfold PairingKeys.consumePairingSecret at hconsume
  split at hconsume
  . contradiction
  next blob hblob =>
    split at hconsume
    . contradiction
    next hlength =>
      dsimp only at hconsume
      split at hconsume
      . contradiction
      next hverify =>
        split at hconsume
        . contradiction
        next hequal =>
          cases hconsume
          refine ⟨hkey, cert, hash, text, by simp [hreceived], hcert, hhash, blob, hblob, ?_⟩
          exact ⟨Nat.le_of_not_lt hlength, by simpa using hverify, by simpa using hequal⟩

theorem handedOn_heard (ssl : OpenSsl)
    : PairingSession.HandedOn (pairingClient ssl) (fun phase pc => pc.Heard ssl phase) where
  serverCert _ _ _ h hconsume := heard_serverCert h hconsume
  challengeResponse _ _ _ h hconsume := heard_challengeResponse h hconsume
  pairingSecret _ _ _ h hconsume := heard_pairingSecret h hconsume
  paired _ h := h

/--
The host has signed its secret with the key of `cert`, and its second answer had the hash this
secret completes.
-/
def PairingKeys.HostProven (ssl : OpenSsl) (pc : PairingKeys) (cert : List UInt8) : Prop :=
  ∃ plaincert challengeresponse pairingsecret publicKey signature blob dec secret,
    pc.received = [plaincert, challengeresponse, pairingsecret] ∧
    fromHex plaincert = some cert ∧ ssl.certPublicKeyPem cert = some publicKey ∧
    ssl.certSignature cert = some signature ∧
    fromHex challengeresponse = some blob ∧
    ssl.aesEcbDecrypt (genAesKey ssl pc.salt pc.pin) blob = some dec ∧ 48 ≤ dec.length ∧
    fromHex pairingsecret = some secret ∧ 16 + kRsaSigLen ≤ secret.length ∧
    ssl.rsaVerify publicKey (secret.take 16) ((secret.drop 16).take kRsaSigLen) = true ∧
    ssl.sha256 (pc.clientChallenge ++ signature ++ secret.take 16) = dec.take 32

theorem hostProven_of_heard (h : pc.Heard ssl .phase4) : pc.HostProven ssl pc.serverCertPem := by
  obtain ⟨_, plaincert, challengeresponse, pairingsecret, hreceived, ⟨hcert, hsignature, hpublicKey⟩,
    ⟨blob, dec, hblob, hdec, hlength, hhash⟩, ⟨secret, hsecret, hlong, hverify, hequal⟩⟩ := h
  rw [hhash] at hequal
  exact ⟨plaincert, challengeresponse, pairingsecret, pc.serverPublicKeyPem, pc.serverCertSignature,
    blob, dec, secret, hreceived, hcert, hpublicKey, hsignature, hblob, hdec, hlength, hsecret, hlong,
    hverify, hequal⟩

end

namespace PairingSession

theorem heard_of_run {ssl : OpenSsl} {s₀ s : PairingSession PairingKeys} (hrest : s₀.requests = [])
    {acts : List (Act PairingInputs)}
    (hrun : s₀.run (pairingClient ssl)
      (acts.map (Act.make fun inputs => (PairingKeys.make ssl inputs).toOption)) = some s)
    : s.Asks fun phase pc => pc.Heard ssl phase := by
  refine asks_of_run (handedOn_heard ssl) (by simp [Asks, hrest]) ?_ hrun
  intro a ha pc hbegins
  obtain ⟨a, _, rfl⟩ := List.mem_map.mp ha
  have hmake : ∃ inputs, (PairingKeys.make ssl inputs).toOption = some pc := by
    cases a with
    | pair inputs | pairHost uniqueIdChanged inputs =>
      obtain ⟨inputs, _, hmake⟩ := Option.bind_eq_some_iff.mp hbegins
      exact ⟨inputs, hmake⟩
    | _ => contradiction
  obtain ⟨inputs, hmake⟩ := hmake
  exact heard_make hmake

theorem paired_cancelPairing {κ : Type} (s : PairingSession κ)
    : s.cancelPairing.paired = s.paired := by
  unfold cancelPairing
  dsimp only
  split <;> rfl

theorem paired_clearForNewPairing {κ : Type} (s : PairingSession κ) (uniqueIdChanged : Bool)
    : (s.clearForNewPairing uniqueIdChanged).paired = s.paired := by
  unfold clearForNewPairing
  dsimp only
  split <;> split <;> first | rfl | exact paired_cancelPairing s

theorem paired_pair {κ : Type} (s : PairingSession κ) (pc : Option κ) : (s.pair pc).paired = s.paired := by
  unfold pair
  split
  . rfl
  . cases pc <;> rfl

theorem reply_of_paired {κ : Type} {client : PairingClient κ} {s s' : PairingSession κ} {a : Act κ}
    (hstep : s.step client a = some s') (h : s'.paired ≠ s.paired)
    : ∃ i r, a = .reply i r := by
  cases a with
  | pair pc =>
    cases hstep
    exact absurd (paired_pair s pc) h
  | cancelPairing | cancelHostPairing =>
    cases hstep
    exact absurd (paired_cancelPairing s) h
  | pairHost uniqueIdChanged pc =>
    cases hstep
    rw [pairHost, paired_pair] at h
    exact absurd (paired_clearForNewPairing s uniqueIdChanged) h
  | reply i r => exact ⟨i, r, rfl⟩
  | quit =>
    cases hstep
    unfold quit at h
    split at h <;> simp [dispatch] at h
  | signal event =>
    obtain ⟨_, hstep⟩ := Option.ite_none_left_eq_some.mp hstep
    cases hstep
    exact absurd rfl h
  | presents der =>
    cases hstep
    unfold pinVerifier at h
    split at h
    . contradiction
    . split at h <;> contradiction

theorem secret_only_to_proven_host (ssl : OpenSsl) (s₀ s : PairingSession PairingKeys)
    (acts : List (Act PairingInputs)) (hrest : s₀.requests = [])
    (hrun : s₀.run (pairingClient ssl)
      (acts.map (Act.make fun inputs => (PairingKeys.make ssl inputs).toOption)) = some s)
    : (∀ q ∈ s.requests, ∀ text, ("clientpairingsecret", text) ∈ q.query ssl →
        ∃ cert, q.run.pc.HostProven ssl cert) ∧
      (∀ i r s', s.step (pairingClient ssl) (.reply i r) = some s' →
        s'.paired ≠ s.paired ∨ s'.pinned ≠ s.pinned →
        ∃ q cert, s.requests[i]? = some q ∧ q.phase = .phase5 ∧ r.reachable = true ∧ r.ok = true ∧
          r.paired = true ∧ q.run.pc.HostProven ssl cert ∧ q.trusts ssl = some (ssl.toDer cert) ∧
          s'.pinned = if s.hasRepo then some (ssl.toDer cert) else s.pinned) ∧
      (∀ a s', s.step (pairingClient ssl) a = some s' → s'.paired ≠ s.paired →
        ∃ i r, a = .reply i r) := by
  have hheard := heard_of_run hrest hrun
  refine ⟨?_, ?_, fun a s' => reply_of_paired⟩
  . intro q hq text hsent
    have hphase : q.phase = .phase4 := by
      unfold PairRequest.query at hsent
      split at hsent
      next => simp at hsent
      next => simp at hsent
      next => simp at hsent
      next hphase => exact hphase
      next => simp at hsent
    have hpc := hheard q hq
    rw [hphase] at hpc
    exact ⟨_, hostProven_of_heard hpc⟩
  . intro i r s' hstep hchanged
    obtain ⟨q, hi, rfl⟩ := Option.map_eq_some_iff.mp hstep
    obtain ⟨hphase, hreachable, hok, hpaired, heq⟩ :=
      @onPairReply_trust _ _ { s with requests := s.requests.eraseIdx i } q r hchanged
    have hpc := hheard q (List.mem_of_getElem? hi)
    rw [hphase] at hpc
    refine ⟨q, q.run.pc.serverCertPem, hi, hphase, hreachable, hok, hpaired, hostProven_of_heard hpc,
      by simp [PairRequest.trusts, hphase], ?_⟩
    rw [heq, proven]
    cases hrepo : s.hasRepo <;> simp [dispatch, pairingFinished, pairingClient]

def plainSsl : OpenSsl where
  sha256 bytes := List.replicate 32 (bytes.foldl (· + ·) 0)
  aesEcbEncrypt _ data := some data
  aesEcbDecrypt _ data := some data
  certSignature pem := some (pem.take 1)
  certPublicKeyPem pem := some (pem.drop 1)
  rsaSign _ _ := some (List.replicate kRsaSigLen 1)
  rsaVerify publicKeyPem _ sig := publicKeyPem.head? = sig.head?
  toDer := toHex

def denInputs : PairingInputs where
  identity := { certPem := [1], privateKeyPem := [2] }
  pin := [0x31, 0x32, 0x33, 0x34]
  salt := List.replicate 16 3
  clientChallenge := List.replicate 16 4
  clientSecret := List.replicate 16 5

def denAnswer : MoonlightXmlResponse where
  reachable := true
  value tag :=
    if tag = "plaincert" then "0709"
    else if tag = "challengeresponse" then toHex (List.replicate 32 71 ++ List.replicate 16 0)
    else ""

def denSecret : List UInt8 :=
  List.replicate 16 0 ++ List.replicate kRsaSigLen 9

theorem exists_denSecretHex : ∃ text, fromHex text = some denSecret := by
  refine ⟨String.ofList (List.replicate 32 '0' ++ (List.replicate kRsaSigLen ['0', '9']).flatten), ?_⟩
  rw [fromHex, String.toList_ofList]
  decide +kernel

def denSecretAnswer (text : String) : MoonlightXmlResponse where
  reachable := true
  value tag := if tag = "pairingsecret" then text else ""

def denKeys : PairingKeys where
  toPairingInputs := denInputs
  aesKey := genAesKey plainSsl denInputs.salt denInputs.pin
  clientCertSignature := [1]
  serverCertPem := [7, 9]
  serverCertSignature := [7]
  serverPublicKeyPem := [9]
  serverHash := List.replicate 32 71
  serverChallenge := List.replicate 16 0
  received := ["0709", denAnswer.value "challengeresponse"]

def denPairing : List (Act PairingInputs) :=
  [.pairHost false (some denInputs), .reply 0 denAnswer, .reply 0 denAnswer]

theorem consume_denSecret {text : String} (h : fromHex text = some denSecret)
    : (pairingClient plainSsl).consumePairingSecret denKeys text =
      some { denKeys with received := denKeys.received ++ [text] } := by
  have hlength : ¬ denSecret.length < 16 + kRsaSigLen := by decide +kernel
  have hverify : plainSsl.rsaVerify denKeys.serverPublicKeyPem (denSecret.take 16)
      ((denSecret.drop 16).take kRsaSigLen) = true := by
    decide +kernel
  have hequal : plainSsl.sha256 (denKeys.clientChallenge ++ denKeys.serverCertSignature ++
      denSecret.take 16) = denKeys.serverHash := by
    decide +kernel
  dsimp only [pairingClient, PairingKeys.consumePairingSecret]
  rw [h]
  dsimp only
  rw [if_neg hlength, hverify, hequal]
  simp [Except.toOption]

theorem onPairPhase3_of_ok {κ : Type} {client : PairingClient κ} {s : PairingSession κ}
    {run : PairingRun κ} {r : MoonlightXmlResponse} {pc : κ} (hlive : s.pairAbandoned run = false)
    (hok : r.reachable = true ∧ r.ok = true) (htext : r.value "pairingsecret" ≠ "")
    (hconsume : client.consumePairingSecret run.pc (r.value "pairingsecret") = some pc)
    : onPairPhase3 client s run r = s.request { run with pc } .phase4 := by
  simp [onPairPhase3, onPairPhase, consumed, hlive, hok, htext, hconsume]

theorem secret_to_den
    : ∃ (acts : List (Act PairingInputs)) (s : PairingSession PairingKeys)
        (q : PairRequest PairingKeys) (cert : List UInt8),
        run (pairingClient plainSsl) {} (acts.map
          (Act.make fun inputs => (PairingKeys.make plainSsl inputs).toOption)) = some s ∧
        q ∈ s.requests ∧
        ("clientpairingsecret", q.run.pc.clientPairingSecretHex plainSsl) ∈ q.query plainSsl ∧
        q.run.pc.HostProven plainSsl cert := by
  have hany : (run (pairingClient plainSsl) {}
      (denPairing.map (Act.make fun inputs => (PairingKeys.make plainSsl inputs).toOption))).any
        (fun s => s.pairGeneration = 0 ∧
          s.requests = [{ run := { pc := denKeys, generation := 0, number := 0 }, phase := .phase3 }]) =
      true := by
    decide +kernel
  obtain ⟨s, hrun, hs⟩ := exists_run_of_any hany
  obtain ⟨hgeneration, hrequests⟩ := of_decide_eq_true hs
  obtain ⟨text, htext⟩ := exists_denSecretHex
  have hne : text ≠ "" := by
    rintro rfl
    exact absurd htext (by decide +kernel)
  obtain ⟨s', hstep, q, hq, hphase⟩ : ∃ s', s.step (pairingClient plainSsl)
      (.reply 0 (denSecretAnswer text)) = some s' ∧ ∃ q ∈ s'.requests, q.phase = .phase4 := by
    rw [step, hrequests]
    refine ⟨_, congrArg some (onPairPhase3_of_ok ?_ ⟨rfl, rfl⟩ hne (consume_denSecret htext)), ?_⟩
    . simp [pairAbandoned, hgeneration]
    . simp [request]
  have hrun' : run (pairingClient plainSsl) {} ((denPairing ++ [Act.reply 0 (denSecretAnswer text)]).map
      (Act.make fun inputs => (PairingKeys.make plainSsl inputs).toOption)) = some s' := by
    rw [List.map_append]
    exact (run_append_of_run hrun).trans (run_cons_eq_some.mpr ⟨_, hstep, rfl⟩)
  have hsent : ("clientpairingsecret", q.run.pc.clientPairingSecretHex plainSsl) ∈ q.query plainSsl := by
    simp [PairRequest.query, hphase]
  obtain ⟨cert, hcert⟩ := (secret_only_to_proven_host plainSsl {} s' _ rfl hrun').1 q hq _ hsent
  exact ⟨_, s', q, cert, hrun', hq, hsent, hcert⟩

end PairingSession

end Moonlight
