import Dish.Manager.Lemmas.Undisturbed

/-!
This module contains which peers the requests with a proof are written to.
-/

open Std Models Reducer Net Wire Store Connection Transition

namespace Wifi

structure Shown where
  rid : Nat
  certDer : List UInt8

def Event.handshake? : Event → Option Shown
  | .encrypted rid certDer => some { rid, certDer }
  | _ => none

namespace Manager

variable {sodium : Sodium} {m m' m'' : Manager}

def ProofsPinned (m : Manager) : Prop :=
  ∀ w ∈ m.written, w.request.call.carriesProof = true → ∀ pin, w.request.pinAtCreation = some pin →
    equalsIgnoreCaseAscii pin w.presented = true

/--
A certificate other than the one pinned meets a pin that differs from it and guards a pairing.
-/
def PinStands (sodium : Sodium) (m : Manager) (e : Event) : Prop :=
  ∀ shown ∈ e.handshake?, ∀ request ∈ m.requests[shown.rid]?, request.call.carriesProof = true →
    ∀ pin ∈ request.pinAtCreation, shown.certDer ≠ [] →
      equalsIgnoreCaseAscii pin (sha256FingerprintHex sodium shown.certDer) = false →
      m.pinGuardsAPairingAt request.host = true ∧
        ∃ stored ∈ m.store.pinnedFingerprint request.host,
          equalsIgnoreCaseAscii stored (sha256FingerprintHex sodium shown.certDer) = false

instance decidablePinStands (sodium : Sodium) (m : Manager) (e : Event)
    : Decidable (PinStands sodium m e) :=
  inferInstanceAs (Decidable (∀ shown ∈ e.handshake?, _))

theorem respected_written : Respected {.write}ᶜ fun m m' => m'.written = m.written where
  refl := fun _ => rfl
  trans := fun h1 h2 => h2.trans h1
  touches := Touches.written
  eraseRequest := fun _ _ => rfl
  eraseRetry := fun _ _ => rfl
  scanned := fun _ _ => rfl
  advance := fun _ _ => rfl
  encrypted := by simp

theorem written_of_step {e : Event} (hstep : m.step sodium e = some m')
    (hhandshake : ¬ e.isHandshake)
    : m'.written = m.written := by
  apply respected_written.step hstep
  rintro p hp rfl
  contradiction

theorem written_onEncrypted (sodium : Sodium) (m : Manager) (rid : Nat) (request : Request)
    (certDer : List UInt8)
    : (m.onEncrypted sodium rid request certDer).written = m.written ∨
        ((m.onEncrypted sodium rid request certDer).written =
            m.written ++ [{ request, presented := sha256FingerprintHex sodium certDer }] ∧
          certDer ≠ [] ∧ ¬ (m.pinGuardsAPairingAt request.host = true ∧
            tofuVerdict (m.store.pinnedFingerprint request.host)
              (sha256FingerprintHex sodium certDer) = .Mismatch)) := by
  unfold onEncrypted
  split
  . apply Or.inl rfl
  . next hcert =>
    dsimp only
    split
    . next hverdict => exact Or.inr ⟨rfl, hcert, by simp [hverdict]⟩
    . next hverdict => exact Or.inr ⟨rfl, hcert, by simp [hverdict]⟩
    . split
      . apply Or.inl rfl
      . next hguards => exact Or.inr ⟨rfl, hcert, fun h => hguards h.1⟩

theorem ProofsPinned.step {e : Event} (h : ProofsPinned m) (hpin : PinStands sodium m e)
    (hstep : m.step sodium e = some m')
    : ProofsPinned m' := by
  by_cases hhandshake : e.isHandshake
  case neg =>
    unfold ProofsPinned
    rw [written_of_step hstep hhandshake]
    apply h
  cases e with
  | encrypted rid certDer =>
    obtain ⟨request, hrequest, _, rfl⟩ := step_encrypted.mp hstep
    obtain hsame | ⟨hnew, hcert, htrusted⟩ := written_onEncrypted sodium m rid request certDer
    . unfold ProofsPinned
      rw [hsame]
      apply h
    . intro w hw hproof pin hpinned
      rw [hnew, List.mem_append, List.mem_singleton] at hw
      obtain hw | rfl := hw
      . apply h w hw hproof pin hpinned
      . by_contra hother
        rw [Bool.not_eq_true] at hother
        obtain ⟨hguards, stored, hstored, hdiffers⟩ :=
          hpin ⟨rid, certDer⟩ rfl request hrequest hproof pin hpinned hcert hother
        apply htrusted
        refine ⟨hguards, ?_⟩
        rw [hstored]
        simp [tofuVerdict, hdiffers]
  | _ => contradiction

end Manager

end Wifi
