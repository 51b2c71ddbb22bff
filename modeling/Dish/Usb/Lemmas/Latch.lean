import Mathlib.Tactic.ByContra
import Dish.Usb.Lemmas.Claims
import Dish.Usb.ReadLoop

/-!
This module contains what is left of a claim when it ends.
-/

open Std Reducer Input Transition

namespace Usb

theorem toNat_packed (v p : UInt16)
    : (v.toUInt32 <<< 16 ||| p.toUInt32).toNat = v.toNat * 65536 + p.toNat := by
  have hv := v.toNat_lt
  have hp := p.toNat_lt
  have hshift : (v.toUInt32 <<< 16).toNat = v.toNat <<< 16 := by
    rw [UInt32.toNat_shiftLeft]
    simp
    omega
  rw [UInt32.toNat_or, hshift, UInt16.toNat_toUInt32]
  rw [← Nat.shiftLeft_add_eq_or_of_lt hp, Nat.shiftLeft_eq]

theorem vpKey_inj {v v' p p' : UInt16} (h : vpKey v p = vpKey v' p') : v = v' ∧ p = p' := by
  have hpacked := congrArg Int32.toUInt32 (Int32.toInt_inj.mp h)
  rw [UInt32.toUInt32_toInt32, UInt32.toUInt32_toInt32] at hpacked
  have hnat := congrArg UInt32.toNat hpacked
  rw [toNat_packed, toNat_packed] at hnat
  have hp := p.toNat_lt
  have hp' := p'.toNat_lt
  constructor
  . apply UInt16.toNat_inj.mp
    omega
  . apply UInt16.toNat_inj.mp
    omega

namespace UsbGamepadManager

variable {gateway : Gateway} {m₀ m : UsbGamepadManager}

def Modelled (gateway : Gateway) (m : UsbGamepadManager) : Prop :=
  ∀ (key : Int) (c : UsbController), m.controllers[key]? = some c →
    vpKey c.vendorId c.productId = key ∧
      c.frameworkExpected = gateway.modelExpectsFrameworkGamepad c.vendorId c.productId

theorem Modelled.keptByEffects : KeptByEffects gateway (Modelled gateway) where
  alike := by
    intro m m' h halike
    unfold Modelled
    rw [halike.controllers]
    exact h
  reduced := by
    intro m key c event hc h k c' hc'
    rw [getElem?_setController] at hc'
    split at hc'
    next heq =>
      have hkeeps := reduce_keeps c event
      rw [hkeeps.vendorId c' hc', hkeeps.productId c' hc',
        (reduce_accounts c event).expected c' hc', heq]
      exact h key c hc
    next => exact h k c' hc'
  claimed := by
    intro m key h
    unfold claimTracked
    split
    next => exact h
    next =>
      dsimp only
      split <;> exact h
  started m id key h := h
  released m id h := h

theorem Modelled.keptByCalls : KeptByCalls gateway (Modelled gateway) where
  alike := Modelled.keptByEffects.alike
  seen m device h := h
  unseen m key h := h
  tracked := by
    intro m device desired _ h k c hc
    simp only [TreeMap.getElem?_insert, Std.compare_eq_iff_eq] at hc
    split at hc
    next heq =>
      cases hc
      exact ⟨heq, rfl⟩
    next => exact h k c hc
  applied m key event _ h := Modelled.keptByEffects.applyEventWithin 3 m key event h

structure Since (gateway : Gateway) (m₀ m : UsbGamepadManager) : Prop where
  attempts : m₀.attempts ≤ m.attempts
  claims : ∀ id key : Int, m.claims[id]? = some key →
    m₀.claims[id]? = some key ∨ ∃ n, m₀.attempts ≤ n ∧ gateway.claim n = .success id

theorem Since.keptByEffects : KeptByEffects gateway (Since gateway m₀) where
  alike := by
    intro m m' h halike
    constructor
    . rw [halike.attempts]
      exact h.attempts
    . rw [halike.claims]
      exact h.claims
  reduced := by
    intro m key c event _ h
    rw [setController_eq]
    exact ⟨h.attempts, h.claims⟩
  claimed := by
    intro m key h
    unfold claimTracked
    split
    next => exact h
    next =>
      dsimp only
      split
      next id hclaim =>
        constructor
        . exact Nat.le_succ_of_le h.attempts
        . intro x k hx
          simp only [TreeMap.getElem?_insert, Std.compare_eq_iff_eq] at hx
          split at hx
          next heq => exact .inr ⟨m.attempts, h.attempts, heq ▸ hclaim⟩
          next => exact h.claims x k hx
      next => exact ⟨Nat.le_succ_of_le h.attempts, h.claims⟩
  started m id key h := ⟨h.attempts, h.claims⟩
  released := by
    intro m id h
    constructor
    . exact h.attempts
    . intro x k hx
      simp only [releaseClaimAndWorker, TreeMap.getElem?_erase] at hx
      split at hx
      next => cases hx
      next => exact h.claims x k hx

theorem Since.keptByCalls : KeptByCalls gateway (Since gateway m₀) where
  alike := Since.keptByEffects.alike
  seen _ _ h := ⟨h.attempts, h.claims⟩
  unseen _ _ h := ⟨h.attempts, h.claims⟩
  tracked _ _ _ _ h := ⟨h.attempts, h.claims⟩
  applied m key event _ h := Since.keptByEffects.applyEventWithin 3 m key event h

theorem since_call (gateway : Gateway) (m : UsbGamepadManager) (call : Call)
    : Since gateway m (m.call gateway call) := by
  apply Since.keptByCalls.call
  exact ⟨Nat.le_refl _, fun _ _ => .inl⟩

end UsbGamepadManager

namespace ClaimedPads

open UsbGamepadManager

variable {gateway : Gateway} {parserForDevice : Int → HidParser} {s s' : ClaimedPads}
variable {event : Event} {key : Int}

theorem reading_iff : s.Reading key ↔ ∃ id, s.manager.claims[id]? = some key ∧ id ∉ s.ended := by
  simp [Reading, TreeMap.mem_toList_iff_getElem?_eq_some]

theorem listed_iff
    : s.Listed key ↔ ∃ c, s.manager.controllers[key]? = some c ∧
        (c.phase = .Direct ∨ c.frameworkExpected = false) := by
  simp only [Listed, directSlot, awaitingClaimSlot, Option.mem_def]
  grind

theorem step_read_eq_some {id : Int} {outcome : ReadOutcome}
    (hstep : step gateway parserForDevice s (.read id outcome) = some s')
    : ∃ k, s.manager.claims[id]? = some k ∧ id ∉ s.ended ∧
        s' = s.readLoop (parserForDevice k) id k outcome := by
  simp only [step] at hstep
  split at hstep
  next => cases hstep
  next k hk =>
    split at hstep
    next => cases hstep
    next hmem => exact ⟨k, hk, hmem, (Option.some.inj hstep).symm⟩

theorem readLoop_cases (s : ClaimedPads) (parser : HidParser) (id k : Int) (outcome : ReadOutcome)
    : (outcome = .Stop ∧ s.readLoop parser id k outcome = { s with ended := id :: s.ended }) ∨
      s.readLoop parser id k outcome = s ∨
      ∃ report, s.readLoop parser id k outcome = { s with last := s.last.insert k report } := by
  cases outcome with
  | Stop => exact .inl ⟨rfl, rfl⟩
  | Idle => exact .inr (.inl rfl)
  | Report data parsed =>
    right
    dsimp only [readLoop]
    split
    next report _ => exact .inr ⟨report, rfl⟩
    next => exact .inl rfl

structure Sound (gateway : Gateway) (s : ClaimedPads) : Prop where
  manager : s.manager.Sound gateway
  modelled : s.manager.Modelled gateway
  ended : ∀ id ∈ s.ended, Handed gateway s.manager.attempts id

theorem Sound.empty (gateway : Gateway) : Sound gateway {} where
  manager := .empty gateway
  modelled := by
    intro key c hc
    simp at hc
  ended := by simp

theorem Sound.step (h : s.Sound gateway) (hfresh : gateway.Fresh)
    (hstep : step gateway parserForDevice s event = some s')
    : s'.Sound gateway := by
  cases event with
  | call call =>
    cases hstep
    constructor
    . exact (UsbGamepadManager.Sound.keptByCalls hfresh).call _ h.manager
    . exact Modelled.keptByCalls.call _ h.modelled
    . intro id hid
      obtain ⟨n, hn, hclaim⟩ := h.ended id hid
      exact ⟨n, Nat.lt_of_lt_of_le hn (since_call gateway _ _).attempts, hclaim⟩
  | read id outcome =>
    obtain ⟨k, hk, _, rfl⟩ := step_read_eq_some hstep
    rcases s.readLoop_cases (parserForDevice k) id k outcome with ⟨_, heq⟩ | heq | ⟨_, heq⟩
    . rw [heq]
      refine ⟨h.manager, h.modelled, ?_⟩
      intro x hx
      rcases List.mem_cons.mp hx with rfl | hx
      . obtain ⟨c, hc, _, hid⟩ := (h.manager.claims x k).mp hk
        exact h.manager.handed k x c hc hid
      . exact h.ended x hx
    . rw [heq]
      exact h
    . rw [heq]
      exact ⟨h.manager, h.modelled, h.ended⟩

theorem neutral_step (hidle : ¬s.Reading key) (hneutral : s.Neutral key)
    (hstep : step gateway parserForDevice s event = some s')
    : s'.Neutral key := by
  cases event with
  | call call =>
    cases hstep
    exact hneutral
  | read id outcome =>
    obtain ⟨k, hk, hmem, rfl⟩ := step_read_eq_some hstep
    have hne : k ≠ key := by
      rintro rfl
      exact hidle (reading_iff.mpr ⟨id, hk, hmem⟩)
    rcases s.readLoop_cases (parserForDevice k) id k outcome with ⟨_, heq⟩ | heq | ⟨report, heq⟩
    . rw [heq]
      exact hneutral
    . rw [heq]
      exact hneutral
    . rw [heq]
      unfold Neutral
      rw [TreeMap.getD_insert, if_neg (by simpa using hne)]
      exact hneutral

theorem Sound.reading_of_call {m : UsbGamepadManager} {call : Call} {c : UsbController}
    (h : s.Sound gateway) (hfresh : gateway.Fresh)
    (hm : s.manager.call gateway call = m) (hreading : s.Reading key)
    (hc : m.controllers[key]? = some c) (hphase : c.phase = .Direct)
    : Reading { s with manager := m } key := by
  have hsound := (UsbGamepadManager.Sound.keptByCalls hfresh).call call h.manager
  have hsince := since_call gateway s.manager call
  rw [hm] at hsound hsince
  obtain ⟨id, hid⟩ := hsound.named key c hc hphase
  have hclaim := (hsound.claims id key).mpr ⟨c, hc, hphase, hid⟩
  refine reading_iff.mpr ⟨id, hclaim, ?_⟩
  intro hended
  rcases hsince.claims id key hclaim with hold | ⟨n, hn, hnew⟩
  . -- the claim was there before, so it is the one that was read
    obtain ⟨id₀, hclaim₀, hmem₀⟩ := reading_iff.mp hreading
    obtain ⟨d, hd, _, hdid⟩ := (h.manager.claims id key).mp hold
    obtain ⟨d₀, hd₀, _, hdid₀⟩ := (h.manager.claims id₀ key).mp hclaim₀
    cases Option.some.inj (hd.symm.trans hd₀)
    cases Option.some.inj (hdid.symm.trans hdid₀)
    exact hmem₀ hended
  . obtain ⟨k, hk, hhanded⟩ := h.ended id hended
    have := hfresh k n id hhanded hnew
    omega

theorem Sound.released_of_call {m : UsbGamepadManager} {call : Call} (h : s.Sound gateway)
    (hfresh : gateway.Fresh) (hm : s.manager.call gateway call = m) (hreading : s.Reading key)
    (hidle : ¬Reading { s with manager := m } key) (hlisted : Listed { s with manager := m } key)
    : ∃ (id : Int) (c : UsbController), s.manager.claims[id]? = some key ∧ m.claims[id]? = none ∧ key ∈ m.controllers ∧
        s.manager.controllers[key]? = some c ∧ c.frameworkExpected = false := by
  obtain ⟨c', hc', hslot⟩ := listed_iff.mp hlisted
  have hexpected : c'.frameworkExpected = false := by
    rcases hslot with hphase | hexpected
    . exact absurd (h.reading_of_call hfresh hm hreading hc' hphase) hidle
    . exact hexpected
  obtain ⟨id, hclaim, hmem⟩ := reading_iff.mp hreading
  obtain ⟨c, hc, hphase, hid⟩ := (h.manager.claims id key).mp hclaim
  have hmodelled := Modelled.keptByCalls.call call h.modelled
  have hsince := since_call gateway s.manager call
  rw [hm] at hmodelled hsince
  obtain ⟨hkey, hmodel⟩ := h.modelled key c hc
  obtain ⟨hkey', hmodel'⟩ := hmodelled key c' hc'
  obtain ⟨hvendor, hproduct⟩ := vpKey_inj (hkey.trans hkey'.symm)
  refine ⟨id, c, hclaim, ?_, ?_, hc, ?_⟩
  . rw [Option.eq_none_iff_forall_ne_some]
    intro k hk
    rcases hsince.claims id k hk with hold | ⟨n, hn, hnew⟩
    . rw [hclaim] at hold
      cases hold
      exact hidle (reading_iff.mpr ⟨id, hk, hmem⟩)
    . obtain ⟨n₀, hn₀, hhanded⟩ := h.manager.handed key id c hc hid
      have := hfresh n₀ n id hhanded hnew
      omega
  . rw [TreeMap.mem_iff_isSome_getElem?, hc']
    rfl
  . rw [hmodel, hvendor, hproduct, ← hmodel']
    exact hexpected

theorem Sound.neutral_of_ends (h : s.Sound gateway) (hfresh : gateway.Fresh)
    (hP : s.EndsNeutral gateway event) (hreading : s.Reading key)
    (hstep : ClaimedPads.step gateway parserForDevice s event = some s') (hidle : ¬s'.Reading key)
    (hlisted : s'.Listed key)
    : s'.Neutral key := by
  cases event with
  | call call =>
    cases hstep
    obtain ⟨id, c, hclaim, hnone, hmem, hc, hexpected⟩ :=
      h.released_of_call hfresh rfl hreading hidle hlisted
    exact hP (id, key) (TreeMap.mem_toList_iff_getElem?_eq_some.mpr hclaim) hnone hmem
      ⟨c, hc, hexpected⟩
  | read id outcome =>
    obtain ⟨k, hk, hmem, rfl⟩ := step_read_eq_some hstep
    rcases s.readLoop_cases (parserForDevice k) id k outcome with ⟨rfl, heq⟩ | heq | ⟨_, heq⟩
    . -- the loop that ended is the one of this slot
      obtain ⟨id₀, hclaim₀, hmem₀⟩ := reading_iff.mp hreading
      rw [heq] at hidle ⊢
      by_cases hid : id₀ = id
      . cases hid
        cases Option.some.inj (hk.symm.trans hclaim₀)
        exact hP key hk
      . exfalso
        apply hidle
        apply reading_iff.mpr
        exact ⟨id₀, hclaim₀, by simp [hid, hmem₀]⟩
    . rw [heq] at hidle
      exact absurd hreading hidle
    . rw [heq] at hidle
      exact absurd (reading_iff.mpr (reading_iff.mp hreading)) hidle

variable {es₁ es₂ : List Event} {s₀ s₁ s₂ : ClaimedPads}

theorem neutral_while_listed (hfresh : gateway.Fresh)
    (h₁ : run gateway parserForDevice {} es₁ = some s₀) (hreading : s₀.Reading key)
    (hends : step gateway parserForDevice s₀ event = some s₁) (hidle : ¬s₁.Reading key)
    (h₂ : run gateway parserForDevice s₁ es₂ = some s₂)
    (hstays : Along (step gateway parserForDevice)
      (fun s _ => s.Listed key ∧ ¬s.Reading key) s₁ es₂)
    (hlisted : s₂.Listed key)
    (hP : Along (step gateway parserForDevice) (EndsNeutral gateway) {}
      (es₁ ++ event :: es₂))
    : s₂.Neutral key := by
  have hsound : s₀.Sound gateway :=
    invariant_of_run (fun _ _ _ h hstep => h.step hfresh hstep) (.empty gateway) h₁
  have hlisted₁ : s₁.Listed key := by
    cases es₂ with
    | nil =>
      cases h₂
      exact hlisted
    | cons e es => exact hstays.1.1
  have hneutral : s₁.Neutral key :=
    hsound.neutral_of_ends hfresh (along_of_append_right h₁ hP).1 hreading hends hidle
      hlisted₁
  exact invariant_of_along (I := fun s => s.Neutral key)
    (fun _ _ _ h hstay hstep => neutral_step hstay.2 h hstep) hneutral hstays h₂

def desk : Gateway :=
  { alwaysClaims with
    isKnownFastLaneModel := fun vendorId _ => vendorId = 0x54C
    modelExpectsFrameworkGamepad := fun vendorId _ => vendorId ≠ 0x28DE }

theorem fresh_desk : desk.Fresh := by
  intro m n id hm hn
  exact fresh_alwaysClaims m n id hm hn

def deskParser (key : Int) : HidParser :=
  if key = vpKey 0x28DE 0x1102 then .SteamController else .DualSense

def steamHeld : List Event :=
  [.call (.reconcile { devices := [{ vendorId := 0x28DE, productId := 0x1102 }] }),
    .call (.setPathChoice [] 0x28DE 0x1102 .Direct),
    .read (-1) (.Report [0x01, 0x00, 0x01, 0x3C] (some { wButtons := 0x1000 }))]

theorem neutral_while_listed_departed
    : ∃ s₀ s₁ s₂,
      run desk deskParser {}
          (steamHeld ++ [.read (-1) (.Report [0x01, 0x00, 0x03, 0x01, 0x01] none)]) = some s₀ ∧
        step desk deskParser s₀ (.call (.setPathChoice [] 0x28DE 0x1102 .Standard)) = some s₁ ∧
        run desk deskParser s₁
            [.call (.reconcile { devices := [{ vendorId := 0x28DE, productId := 0x1102 }] })] =
          some s₂ ∧
        s₂.Listed (vpKey 0x28DE 0x1102) ∧ s₂.Neutral (vpKey 0x28DE 0x1102) := by
  have hany : (run desk deskParser {}
      (steamHeld ++ [.read (-1) (.Report [0x01, 0x00, 0x03, 0x01, 0x01] none)])).any (fun s₀ =>
        s₀.Reading (vpKey 0x28DE 0x1102) &&
          (step desk deskParser s₀ (.call (.setPathChoice [] 0x28DE 0x1102 .Standard))).any fun s₁ =>
            ¬s₁.Reading (vpKey 0x28DE 0x1102) ∧ s₁.Listed (vpKey 0x28DE 0x1102) ∧
              (run desk deskParser s₁
                [.call (.reconcile { devices := [{ vendorId := 0x28DE, productId := 0x1102 }] })]).any
                fun s₂ => s₂.Listed (vpKey 0x28DE 0x1102)) = true := by
    decide +kernel
  obtain ⟨s₀, s₁, h₀, hreading, h₁, hs₁⟩ := exists_step_of_any hany
  obtain ⟨hidle, hlisted₁, hs₂⟩ := of_decide_eq_true hs₁
  obtain ⟨s₂, h₂, hlisted⟩ := exists_run_of_any hs₂
  refine ⟨s₀, s₁, s₂, h₀, h₁, h₂, of_decide_eq_true hlisted, ?_⟩
  have hstays : Along (step desk deskParser)
      (fun s _ => s.Listed (vpKey 0x28DE 0x1102) ∧ ¬s.Reading (vpKey 0x28DE 0x1102)) s₁
      [.call (.reconcile { devices := [{ vendorId := 0x28DE, productId := 0x1102 }] })] :=
    ⟨⟨hlisted₁, hidle⟩, fun _ _ => trivial⟩
  apply neutral_while_listed fresh_desk h₀ (of_decide_eq_true hreading) h₁ hidle h₂ hstays
    (of_decide_eq_true hlisted)
  decide +kernel

theorem held_after_claim
    : (∃ s₀ s₁, run desk deskParser {} steamHeld = some s₀ ∧ s₀.Reading (vpKey 0x28DE 0x1102) ∧
        step desk deskParser s₀ (.call (.setPathChoice [] 0x28DE 0x1102 .Standard)) = some s₁ ∧
        ¬s₁.Reading (vpKey 0x28DE 0x1102) ∧ s₁.Listed (vpKey 0x28DE 0x1102) ∧
        ¬s₁.Neutral (vpKey 0x28DE 0x1102)) ∧
      ∃ s₀ s₁,
        run desk deskParser {}
            [.call (.reconcile { devices := [{ vendorId := 0x54C, productId := 0xCE6 }] }),
              .read (-1) (.Report [0x01] (some { lx := 32767 }))] =
          some s₀ ∧
        s₀.Reading (vpKey 0x54C 0xCE6) ∧ step desk deskParser s₀ (.read (-1) .Stop) = some s₁ ∧
        ¬s₁.Reading (vpKey 0x54C 0xCE6) ∧ s₁.Listed (vpKey 0x54C 0xCE6) ∧
        ¬s₁.Neutral (vpKey 0x54C 0xCE6) := by
  constructor
  . have hany : (run desk deskParser {} steamHeld).any (fun s₀ =>
        s₀.Reading (vpKey 0x28DE 0x1102) &&
          (step desk deskParser s₀ (.call (.setPathChoice [] 0x28DE 0x1102 .Standard))).any fun s₁ =>
            ¬s₁.Reading (vpKey 0x28DE 0x1102) ∧ s₁.Listed (vpKey 0x28DE 0x1102) ∧
              ¬s₁.Neutral (vpKey 0x28DE 0x1102)) = true := by
      decide +kernel
    obtain ⟨s₀, s₁, h₀, hreading, h₁, hlast⟩ := exists_step_of_any hany
    exact ⟨s₀, s₁, h₀, of_decide_eq_true hreading, h₁, of_decide_eq_true hlast⟩
  . have hany : (run desk deskParser {}
        [.call (.reconcile { devices := [{ vendorId := 0x54C, productId := 0xCE6 }] }),
          .read (-1) (.Report [0x01] (some { lx := 32767 }))]).any (fun s₀ =>
        s₀.Reading (vpKey 0x54C 0xCE6) &&
          (step desk deskParser s₀ (.read (-1) .Stop)).any fun s₁ =>
            ¬s₁.Reading (vpKey 0x54C 0xCE6) ∧ s₁.Listed (vpKey 0x54C 0xCE6) ∧
              ¬s₁.Neutral (vpKey 0x54C 0xCE6)) = true := by
      decide +kernel
    obtain ⟨s₀, s₁, h₀, hreading, h₁, hlast⟩ := exists_step_of_any hany
    exact ⟨s₀, s₁, h₀, of_decide_eq_true hreading, h₁, of_decide_eq_true hlast⟩

end ClaimedPads

end Usb
