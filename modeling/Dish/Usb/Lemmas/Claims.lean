import Mathlib.Data.List.Basic
import Dish.Usb.Lemmas.Calls
import Dish.Usb.Lemmas.Effects

/-!
This module contains the claims the gateway holds over the calls made on the manager.
-/

open Std Reducer

namespace Usb

namespace UsbGamepadManager

variable {event : UsbEvent}

variable {gateway : Gateway} {m m' : UsbGamepadManager} {key : Int}

structure Frees (m m' : UsbGamepadManager) (ids : List Int) : Prop where
  controllers : ∀ key : Int, m'.controllers[key]? = m.controllers[key]?
  devices : m'.devices = m.devices
  attempts : m'.attempts = m.attempts
  claims : ∀ id, m'.claims[id]? = if id ∈ ids then none else m.claims[id]?
  workers : ∀ id, m'.workers[id]? = if id ∈ ids then none else m.workers[id]?

theorem Frees.refl (m : UsbGamepadManager) : Frees m m [] := by
  constructor <;> simp

theorem Frees.trans {m'' : UsbGamepadManager} {ids ids' : List Int} (h : Frees m m' ids)
    (h' : Frees m' m'' ids')
    : Frees m m'' (ids ++ ids') := by
  constructor
  . intro key
    rw [h'.controllers, h.controllers]
  . rw [h'.devices, h.devices]
  . rw [h'.attempts, h.attempts]
  . intro id
    rw [h'.claims, h.claims]
    grind
  . intro id
    rw [h'.workers, h.workers]
    grind

theorem frees_releaseClaimAndWorker (m : UsbGamepadManager) (id : Int)
    : Frees m (m.releaseClaimAndWorker id) [id] := by
  constructor
  . intro key
    rfl
  . rfl
  . rfl
  . intro x
    simp [releaseClaimAndWorker, TreeMap.getElem?_erase, eq_comm (a := x)]
  . intro x
    simp [releaseClaimAndWorker, TreeMap.getElem?_erase, eq_comm (a := x)]

section Effects

variable (feed : UsbGamepadManager → Int → UsbEvent → UsbGamepadManager)

theorem frees_execute (m : UsbGamepadManager) (key : Int) (c : UsbController) (effect : UsbEffect)
    (h : quiet [effect])
    : Frees m (execute feed gateway m key c effect) (freed c [effect]) := by
  cases effect with
  | Claim => cases h
  | Reclaim => cases h
  | RequestPermission => cases h
  | Release =>
    unfold execute
    dsimp only [freed]
    cases c.syntheticId with
    | none => apply Frees.refl
    | some id => apply frees_releaseClaimAndWorker
  | RemoveSynthetic id => apply frees_releaseClaimAndWorker
  | _ => constructor <;> simp [execute, freed]

theorem frees_foldl_execute (m : UsbGamepadManager) (key : Int) (c : UsbController)
    (fx : List UsbEffect) (h : quiet fx)
    : Frees m (fx.foldl (fun m effect => execute feed gateway m key c effect) m) (freed c fx) := by
  induction fx generalizing m with
  | nil => apply Frees.refl
  | cons effect fx ih =>
    have happend : effect :: fx = [effect] ++ fx := rfl
    rw [happend, quiet_append, Bool.and_eq_true] at h
    rw [happend, freed_append, List.foldl_append]
    exact (frees_execute feed m key c effect h.1).trans (ih _ h.2)

end Effects

def Handed (gateway : Gateway) (attempts : Nat) (id : Int) : Prop :=
  ∃ k < attempts, gateway.claim k = .success id

def OnDirect (m : UsbGamepadManager) (key id : Int) : Prop :=
  ∃ c, m.controllers[key]? = some c ∧ c.phase = .Direct ∧ c.syntheticId = some id

structure Sound (gateway : Gateway) (m : UsbGamepadManager) : Prop where
  devices : ∀ (key : Int) (device : UsbDeviceInfo), m.devices[key]? = some device →
    device.vpKey = key
  handed : ∀ (key id : Int) (c : UsbController), m.controllers[key]? = some c →
    c.syntheticId = some id → Handed gateway m.attempts id
  own : ∀ (key key' id : Int) (c c' : UsbController), m.controllers[key]? = some c →
    m.controllers[key']? = some c' → c.syntheticId = some id → c'.syntheticId = some id → key = key'
  named : ∀ (key : Int) (c : UsbController), m.controllers[key]? = some c → c.phase = .Direct →
    ∃ id, c.syntheticId = some id
  claims : ∀ id key : Int, m.claims[id]? = some key ↔ m.OnDirect key id
  workers : ∀ id : Int, m.workers[id]? = m.claims[id]?

theorem getElem?_setController (m : UsbGamepadManager) (key k : Int) (next : Option UsbController)
    : (m.setController key next).controllers[k]? =
      if k = key then next else m.controllers[k]? := by
  cases next <;>
    simp [setController, TreeMap.getElem?_insert, TreeMap.getElem?_erase, eq_comm (a := k)]

theorem setController_eq (m : UsbGamepadManager) (key : Int) (next : Option UsbController)
    : m.setController key next =
      { m with controllers := (m.setController key next).controllers } := by
  cases next <;> rfl

theorem Sound.passed {c : UsbController} {next : Option UsbController} {ids : List Int}
    (h : Sound gateway m) (hc : m.controllers[key]? = some c) (hpasses : Passes c next ids)
    (hfrees : Frees (m.setController key next) m' ids)
    : Sound gateway m' := by
  have hget : ∀ k, m'.controllers[k]? = if k = key then next else m.controllers[k]? := by
    intro k
    rw [hfrees.controllers]
    apply getElem?_setController
  have hdevices := hfrees.devices
  have hattempts := hfrees.attempts
  have hclaims := hfrees.claims
  have hworkers := hfrees.workers
  rw [setController_eq] at hdevices hattempts hclaims hworkers
  dsimp only at hdevices hattempts hclaims hworkers
  constructor
  . rw [hdevices]
    exact h.devices
  . rw [hattempts]
    grind [h.handed, hpasses.named]
  . grind [h.own, hpasses.named]
  . intro k d hd hphase
    rw [hget] at hd
    split at hd
    next =>
      obtain ⟨hwas, hsame, _⟩ := hpasses.direct d hd hphase
      rw [hsame]
      exact h.named key c hc hwas
    next => exact h.named k d hd hphase
  . intro id k
    rw [hclaims]
    constructor
    . intro hclaim
      have hfree : id ∉ ids := by
        intro hid
        simp [hid] at hclaim
      rw [if_neg hfree, h.claims] at hclaim
      obtain ⟨d, hd, hphase, hid⟩ := hclaim
      -- The pad itself is still on Direct, or its id would be one of those released.
      by_cases hk : k = key
      . rw [hk, hc] at hd
        cases Option.some.inj hd
        by_cases hstays : ∃ c', next = some c' ∧ c'.phase = .Direct
        . obtain ⟨c', hc', hphase'⟩ := hstays
          obtain ⟨_, hsame, _⟩ := hpasses.direct c' hc' hphase'
          exact ⟨c', by simp [hget, hk, hc'], hphase', hsame.trans hid⟩
        . have hleft := hpasses.left hphase (fun c' hc' hphase' => hstays ⟨c', hc', hphase'⟩)
          exact absurd (hleft id hid) hfree
      . exact ⟨d, by simp [hget, hk, hd], hphase, hid⟩
    . rintro ⟨d, hd, hphase, hid⟩
      rw [hget] at hd
      by_cases hk : k = key
      . rw [if_pos hk] at hd
        obtain ⟨hwas, hsame, hnil⟩ := hpasses.direct d hd hphase
        rw [hnil, if_neg List.not_mem_nil, h.claims]
        exact ⟨c, hk ▸ hc, hwas, hsame ▸ hid⟩
      . rw [if_neg hk] at hd
        have hfree : id ∉ ids := by
          intro hmem
          exact hk (h.own k key id d c hd hc hid (hpasses.own id hmem))
        rw [if_neg hfree, h.claims]
        exact ⟨d, hd, hphase, hid⟩
  . intro id
    rw [hclaims, hworkers, h.workers]

theorem applyEventWithin_of_none {depth : Nat} (hc : m.controllers[key]? = none)
    : applyEventWithin gateway depth m key event = m := by
  cases depth <;> simp [applyEventWithin, hc]

theorem applyEventWithin_of_some {c : UsbController} {depth : Nat}
    (hc : m.controllers[key]? = some c)
    : applyEventWithin gateway (depth + 1) m key event =
      (reduce c event).effects.foldl
        (fun m effect =>
          m.execute (applyEventWithin gateway depth) gateway key ((reduce c event).next.getD c)
            effect)
        (m.setController key (reduce c event).next) := by
  simp [applyEventWithin, hc]

section Depth

variable {feed feed' : UsbGamepadManager → Int → UsbEvent → UsbGamepadManager} {d d' : Nat}

theorem execute_congr (m : UsbGamepadManager) (c : UsbController) (effect : UsbEffect)
    (hok : ∀ m id, feed m key (.ClaimSucceeded id) = feed' m key (.ClaimSucceeded id))
    (hfail : ∀ m reason stolen,
      feed m key (.ClaimFailed reason stolen) = feed' m key (.ClaimFailed reason stolen))
    (hgranted : effect = .RequestPermission →
      ∀ m, feed m key .PermissionGranted = feed' m key .PermissionGranted)
    : execute feed gateway m key c effect = execute feed' gateway m key c effect := by
  cases effect with
  | Claim => simp only [execute, runClaim, hok, hfail]
  | Reclaim => simp only [execute, runReclaim, hok, hfail]
  | RequestPermission => exact hgranted rfl m
  | _ => rfl

theorem applyEventWithin_congr (m : UsbGamepadManager) (key : Int) (event : UsbEvent)
    (h : ∀ (c : UsbController) (m : UsbGamepadManager), ∀ effect ∈ (reduce c event).effects,
      m.execute (applyEventWithin gateway d) gateway key ((reduce c event).next.getD c) effect =
        m.execute (applyEventWithin gateway d') gateway key ((reduce c event).next.getD c) effect)
    : applyEventWithin gateway (d + 1) m key event =
      applyEventWithin gateway (d' + 1) m key event := by
  cases hc : m.controllers[key]? with
  | none => rw [applyEventWithin_of_none hc, applyEventWithin_of_none hc]
  | some c =>
    rw [applyEventWithin_of_some hc, applyEventWithin_of_some hc]
    apply List.foldl_ext
    intro m effect heffect
    exact h c m effect heffect

theorem applyEventWithin_of_quiet (m : UsbGamepadManager) (key : Int)
    (hquiet : ∀ c, quiet (reduce c event).effects)
    : applyEventWithin gateway (d + 1) m key event = applyEventWithin gateway 1 m key event := by
  apply applyEventWithin_congr
  intro c m effect heffect
  have hno := hquiet c
  cases effect <;> simp_all [quiet, execute]

theorem applyEventWithin_granted (m : UsbGamepadManager) (key : Int)
    : applyEventWithin gateway (d + 2) m key .PermissionGranted =
      applyEventWithin gateway 2 m key .PermissionGranted := by
  apply applyEventWithin_congr
  intro c m effect heffect
  apply execute_congr
  . intro m id
    apply applyEventWithin_of_quiet
    intro c
    apply quiet_reduce_claimSucceeded
  . intro m reason stolen
    apply applyEventWithin_of_quiet
    intro c
    apply quiet_reduce_claimFailed
  . rintro rfl
    exact absurd heffect (not_requests_of_granted c)

theorem applyEventWithin_eq_applyEvent (m : UsbGamepadManager) (key : Int) (event : UsbEvent)
    : applyEventWithin gateway (d + 3) m key event = m.applyEvent gateway key event := by
  apply applyEventWithin_congr
  intro c m effect heffect
  apply execute_congr
  . intro m id
    rw [applyEventWithin_of_quiet (d := d + 1) m key fun c => quiet_reduce_claimSucceeded c id]
    rw [applyEventWithin_of_quiet (d := 1) m key fun c => quiet_reduce_claimSucceeded c id]
  . intro m reason stolen
    rw [applyEventWithin_of_quiet (d := d + 1) m key
      fun c => quiet_reduce_claimFailed c reason stolen]
    rw [applyEventWithin_of_quiet (d := 1) m key fun c => quiet_reduce_claimFailed c reason stolen]
  . intro _ m
    rw [applyEventWithin_granted]

end Depth

theorem Sound.of_quiet (depth : Nat) (h : Sound gateway m)
    (hevent : ∀ id, event ≠ .ClaimSucceeded id)
    (hquiet : ∀ c, m.controllers[key]? = some c → quiet (reduce c event).effects)
    : Sound gateway (applyEventWithin gateway depth m key event) := by
  cases depth with
  | zero => exact h
  | succ depth =>
    cases hc : m.controllers[key]? with
    | none =>
      rw [applyEventWithin_of_none hc]
      exact h
    | some c =>
      rw [applyEventWithin_of_some hc]
      exact h.passed hc (passes_reduce c hevent) (frees_foldl_execute _ _ _ _ _ (hquiet c hc))

structure Takes (m m' : UsbGamepadManager) (key id : Int) : Prop where
  controllers : ∀ key : Int, m'.controllers[key]? = m.controllers[key]?
  devices : m'.devices = m.devices
  attempts : m'.attempts = m.attempts + 1
  claims : ∀ x, m'.claims[x]? = if x = id then some key else m.claims[x]?
  workers : ∀ x, m'.workers[x]? = if x = id then some key else m.workers[x]?

section Claim

variable {c : UsbController} {id : Int}

theorem Sound.not_named (h : Sound gateway m) (hfresh : gateway.Fresh)
    (hclaim : gateway.claim m.attempts = .success id) (hc : m.controllers[key]? = some c)
    : c.syntheticId ≠ some id := by
  intro hid
  obtain ⟨k, hk, hold⟩ := h.handed key id c hc hid
  have := hfresh k m.attempts id hold hclaim
  omega

theorem Sound.taken {c' : UsbController} (h : Sound gateway m) (hfresh : gateway.Fresh)
    (hclaim : gateway.claim m.attempts = .success id) (hc : m.controllers[key]? = some c)
    (hphase : c.phase ≠ .Direct) (hphase' : c'.phase = .Direct) (hid : c'.syntheticId = some id)
    (htakes : Takes (m.setController key (some c')) m' key id)
    : Sound gateway m' := by
  have hget : ∀ k, m'.controllers[k]? = if k = key then some c' else m.controllers[k]? := by
    intro k
    rw [htakes.controllers]
    apply getElem?_setController
  have hdevices := htakes.devices
  have hattempts := htakes.attempts
  have hclaims := htakes.claims
  have hworkers := htakes.workers
  rw [setController_eq] at hdevices hattempts hclaims hworkers
  dsimp only at hdevices hattempts hclaims hworkers
  have hnew : ∀ (k : Int) (d : UsbController), m.controllers[k]? = some d →
      d.syntheticId ≠ some id :=
    fun k d hd => h.not_named hfresh hclaim hd
  constructor
  . rw [hdevices]
    exact h.devices
  . intro k x d hd hx
    rw [hattempts]
    rw [hget] at hd
    split at hd
    next =>
      cases hd
      cases Option.some.inj (hid.symm.trans hx)
      exact ⟨m.attempts, by omega, hclaim⟩
    next =>
      obtain ⟨n, hn, hold⟩ := h.handed k x d hd hx
      exact ⟨n, by omega, hold⟩
  . grind [h.own]
  . grind [h.named]
  . intro x k
    rw [hclaims]
    constructor
    . intro hx
      split at hx
      next heq =>
        cases hx
        exact ⟨c', by simp [hget], hphase', heq ▸ hid⟩
      next =>
        obtain ⟨d, hd, hdphase, hdid⟩ := (h.claims x k).mp hx
        have hk : k ≠ key := by grind
        exact ⟨d, by simp [hget, hk, hd], hdphase, hdid⟩
    . rintro ⟨d, hd, hdphase, hdid⟩
      rw [hget] at hd
      split at hd
      next hk =>
        cases hd
        cases Option.some.inj (hid.symm.trans hdid)
        simp [hk]
      next =>
        have hx : x ≠ id := by grind
        rw [if_neg hx, h.claims]
        exact ⟨d, hd, hdphase, hdid⟩
  . intro x
    rw [hclaims, hworkers, h.workers]

theorem Sound.fed (depth : Nat) (h : Sound gateway m) (hfresh : gateway.Fresh)
    (hclaim : gateway.claim m.attempts = .success id) (hc : m.controllers[key]? = some c)
    (hphase : c.phase = .Claiming ∨ c.phase = .RestoreStuck) (htakes : Takes m m' key id)
    : Sound gateway (applyEventWithin gateway (depth + 1) m' key (.ClaimSucceeded id)) := by
  have hc' : m'.controllers[key]? = some c := by
    rw [htakes.controllers]
    exact hc
  have hquiet := quiet_reduce_claimSucceeded c id
  obtain ⟨d, hnext, hd, hid, hfreed⟩ := reduce_claimSucceeded hphase id
  rw [applyEventWithin_of_some hc']
  have hfrees := @frees_foldl_execute gateway (applyEventWithin gateway depth)
    (m'.setController key (some d)) key d _ hquiet
  rw [hfreed] at hfrees
  rw [hnext, Option.getD_some]
  apply h.taken hfresh hclaim hc _ hd hid
  . constructor
    . intro k
      rw [hfrees.controllers, getElem?_setController, getElem?_setController, htakes.controllers]
    . rw [hfrees.devices]
      exact htakes.devices
    . rw [hfrees.attempts]
      exact htakes.attempts
    . intro x
      rw [hfrees.claims]
      exact htakes.claims x
    . intro x
      rw [hfrees.workers]
      exact htakes.workers x
  . rcases hphase with hphase | hphase <;> simp [hphase]

theorem Sound.asked (h : Sound gateway m)
    : Sound gateway { m with attempts := m.attempts + 1 } where
  devices := h.devices
  handed := by
    intro k x d hd hx
    obtain ⟨n, hn, hold⟩ := h.handed k x d hd hx
    exact ⟨n, Nat.lt_succ_of_lt hn, hold⟩
  own := h.own
  named := h.named
  claims := h.claims
  workers := h.workers

theorem Sound.claimTracked_cases (h : Sound gateway m) (key : Int)
    : (∃ reason stolen m₁, claimTracked gateway m key = (.fail reason stolen, m₁) ∧
        Sound gateway m₁ ∧ m₁.controllers = m.controllers) ∨
      ∃ id, gateway.claim m.attempts = .success id ∧
        claimTracked gateway m key =
          (.success id,
            { m with attempts := m.attempts + 1, claims := m.claims.insert id key }) := by
  unfold claimTracked
  split
  next => exact .inl ⟨_, _, _, rfl, h, rfl⟩
  next device hdevice =>
    dsimp only
    split
    next id hclaim =>
      rw [h.devices key device hdevice]
      exact .inr ⟨id, hclaim, rfl⟩
    next => exact .inl ⟨_, _, _, rfl, h.asked, rfl⟩

theorem takes_startWorker (m : UsbGamepadManager) (key id : Int)
    : Takes m
        (startWorker { m with attempts := m.attempts + 1, claims := m.claims.insert id key } id key)
        key id := by
  constructor
  . intro k
    rfl
  . rfl
  . rfl
  . intro x
    simp [startWorker, TreeMap.getElem?_insert, eq_comm (a := x)]
  . intro x
    simp [startWorker, TreeMap.getElem?_insert, eq_comm (a := x)]

theorem Sound.runClaim (depth : Nat) (h : Sound gateway m) (hfresh : gateway.Fresh)
    (hc : m.controllers[key]? = some c) (hphase : c.phase = .Claiming)
    : Sound gateway (runClaim (applyEventWithin gateway (depth + 1)) gateway m key) := by
  unfold UsbGamepadManager.runClaim
  rcases h.claimTracked_cases key with ⟨reason, stolen, m₁, heq, hm₁, _⟩ | ⟨id, hclaim, heq⟩
  . rw [heq]
    apply hm₁.of_quiet
    . intro id
      simp
    . intro d _
      apply quiet_reduce_claimFailed
  . rw [heq]
    exact h.fed depth hfresh hclaim hc (.inl hphase) (takes_startWorker m key id)

theorem Sound.claims_eq_none (h : Sound gateway m) (hc : m.controllers[key]? = some c)
    (hphase : c.phase ≠ .Direct) (hid : c.syntheticId = some id)
    : m.claims[id]? = none := by
  rw [Option.eq_none_iff_forall_ne_some]
  intro k hk
  obtain ⟨d, hd, hdphase, hdid⟩ := (h.claims id k).mp hk
  have hkey := h.own k key id d c hd hc hdid hid
  rw [hkey, hc] at hd
  cases hd
  exact hphase hdphase

theorem Sound.releaseIdle (h : Sound gateway m) (hc : m.controllers[key]? = some c)
    (hphase : c.phase ≠ .Direct) (hid : c.syntheticId = some id)
    : Sound gateway (m.releaseClaimAndWorker id) := by
  have hnone := h.claims_eq_none hc hphase hid
  have hclaims : ∀ x : Int, (m.releaseClaimAndWorker id).claims[x]? = m.claims[x]? := by
    intro x
    rw [(frees_releaseClaimAndWorker m id).claims]
    grind
  constructor
  . exact h.devices
  . exact h.handed
  . exact h.own
  . exact h.named
  . intro x k
    rw [hclaims]
    exact h.claims x k
  . intro x
    rw [(frees_releaseClaimAndWorker m id).claims, (frees_releaseClaimAndWorker m id).workers]
    rw [h.workers]

theorem takes_reclaim {old : Int} (hne : old ≠ id) (hclaims : m.claims[old]? = none)
    (hworkers : m.workers[old]? = none)
    : Takes m
        (startWorker
          (releaseClaimAndWorker
            { m with attempts := m.attempts + 1, claims := m.claims.insert id key } old)
          id key)
        key id := by
  constructor
  . intro k
    rfl
  . rfl
  . rfl
  . intro x
    simp only [startWorker, releaseClaimAndWorker, TreeMap.getElem?_erase, TreeMap.getElem?_insert]
    grind
  . intro x
    simp only [startWorker, releaseClaimAndWorker, TreeMap.getElem?_erase, TreeMap.getElem?_insert]
    grind

theorem Sound.runReclaim (depth : Nat) (h : Sound gateway m) (hfresh : gateway.Fresh)
    (hc : m.controllers[key]? = some c) (hphase : c.phase = .RestoreStuck)
    : Sound gateway (runReclaim (applyEventWithin gateway (depth + 1)) gateway m key c) := by
  have hidle : c.phase ≠ .Direct := by simp [hphase]
  unfold UsbGamepadManager.runReclaim
  rcases h.claimTracked_cases key with
    ⟨reason, stolen, m₁, heq, hm₁, hcontrollers⟩ | ⟨id, hclaim, heq⟩
  . rw [heq]
    dsimp only
    apply Sound.of_quiet
    . cases hid : c.syntheticId with
      | none => exact hm₁
      | some old => exact hm₁.releaseIdle (hcontrollers ▸ hc) hidle hid
    . intro id
      simp
    . intro d _
      apply quiet_reduce_claimFailed
  . rw [heq]
    dsimp only
    apply h.fed depth hfresh hclaim hc (.inr hphase)
    cases hid : c.syntheticId with
    | none => exact takes_startWorker m key id
    | some old =>
      have hnone := h.claims_eq_none hc hidle hid
      apply takes_reclaim _ hnone
      . rw [h.workers]
        exact hnone
      . intro heq
        exact h.not_named hfresh hclaim hc (heq ▸ hid)

theorem Sound.of_granted (depth : Nat) (h : Sound gateway m)
    (hfresh : gateway.Fresh) (hevent : ∀ id, event ≠ .ClaimSucceeded id)
    (hgranted : event = .PermissionGranted ∨ ∀ m, Sound gateway m →
      Sound gateway (applyEventWithin gateway (depth + 1) m key .PermissionGranted))
    : Sound gateway (applyEventWithin gateway (depth + 2) m key event) := by
  cases hc : m.controllers[key]? with
  | none =>
    rw [applyEventWithin_of_none hc]
    exact h
  | some c =>
    have hpasses := passes_reduce c hevent
    have hasks : event = .PermissionGranted → .RequestPermission ∉ (reduce c event).effects := by
      rintro rfl
      apply not_requests_of_granted
    have hfeeds := reduce_feeds c event
    rw [applyEventWithin_of_some hc]
    generalize reduce c event = r at *
    cases hfeeds with
    | quiet hquiet => exact h.passed hc hpasses (frees_foldl_execute _ _ _ _ _ hquiet)
    | @claim c' _ hphase' _ =>
      have hfrees := @frees_foldl_execute gateway
        (applyEventWithin gateway (depth + 1)) (m.setController key (some c')) key c'
        [.ClearFailure, .BeginHold] rfl
      apply (h.passed hc hpasses hfrees).runClaim depth hfresh _ hphase'
      rw [hfrees.controllers, getElem?_setController, if_pos rfl]
    | @permission c' _ _ _ =>
      have hset : Sound gateway (m.setController key (some c')) :=
        h.passed hc hpasses (Frees.refl _)
      rcases hgranted with heq | hgranted
      . exact absurd (List.mem_singleton.mpr rfl) (hasks heq)
      . exact hgranted _ hset
    | @reclaim c' _ hphase' _ =>
      have hset : Sound gateway (m.setController key (some c')) :=
        h.passed hc hpasses (Frees.refl _)
      apply hset.runReclaim depth hfresh _ hphase'
      rw [getElem?_setController, if_pos rfl]

theorem Sound.applyEvent (h : Sound gateway m) (hfresh : gateway.Fresh)
    (key : Int) (hevent : ∀ id, event ≠ .ClaimSucceeded id)
    : Sound gateway (m.applyEvent gateway key event) := by
  apply h.of_granted 1 hfresh hevent
  right
  intro m hm
  apply hm.of_granted 0 hfresh _ (.inl rfl)
  intro id
  simp

end Claim

section Calls

variable (gateway) in
theorem Sound.empty : Sound gateway {} := by
  constructor <;> simp [OnDirect]

theorem Sound.alike (h : Sound gateway m) (halike : Alike m m') : Sound gateway m' := by
  constructor
  . rw [halike.devices]
    exact h.devices
  . rw [halike.controllers, halike.attempts]
    exact h.handed
  . rw [halike.controllers]
    exact h.own
  . rw [halike.controllers]
    exact h.named
  . rw [halike.claims]
    unfold OnDirect
    rw [halike.controllers]
    exact h.claims
  . rw [halike.claims, halike.workers]
    exact h.workers

theorem Sound.track {c : UsbController} (h : Sound gateway m) (hnone : m.controllers[key]? = none)
    (hphase : c.phase ≠ .Direct) (hid : c.syntheticId = none)
    : Sound gateway { m with controllers := m.controllers.insert key c } := by
  have hget : ∀ k : Int, (m.controllers.insert key c)[k]? =
      if k = key then some c else m.controllers[k]? := by
    intro k
    simp [TreeMap.getElem?_insert, eq_comm (a := k)]
  constructor
  . exact h.devices
  . dsimp only
    grind [h.handed]
  . dsimp only
    grind [h.own]
  . dsimp only
    grind [h.named]
  . intro id k
    unfold OnDirect
    dsimp only
    rw [h.claims]
    unfold OnDirect
    grind
  . exact h.workers

theorem Sound.of_devices {devices : TreeMap Int UsbDeviceInfo} (h : Sound gateway m)
    (hdevices : ∀ (key : Int) (device : UsbDeviceInfo), devices[key]? = some device →
      device.vpKey = key)
    : Sound gateway { m with devices } where
  devices := hdevices
  handed := h.handed
  own := h.own
  named := h.named
  claims := h.claims
  workers := h.workers

theorem Sound.keptByCalls (hfresh : gateway.Fresh) : KeptByCalls gateway (Sound gateway) where
  alike m m' h halike := h.alike halike
  seen := by
    intro m device h
    apply h.of_devices
    intro key d hd
    simp only [TreeMap.getElem?_insert, Std.compare_eq_iff_eq] at hd
    grind [h.devices]
  unseen := by
    intro m key h
    apply h.of_devices
    intro k d hd
    simp only [TreeMap.getElem?_erase] at hd
    grind [h.devices]
  tracked := by
    intro m device desired hnone h
    apply h.track hnone
    . simp [UsbController.tracked]
    . rfl
  applied m key event hevent h := h.applyEvent hfresh key hevent

theorem Sound.runCalls (h : Sound gateway m) (hfresh : gateway.Fresh) (calls : List Call)
    : Sound gateway (m.runCalls gateway calls) := by
  apply List.foldlRecOn
  . exact h
  . intro m hm call _
    exact (Sound.keptByCalls hfresh).call call hm

theorem claims_of_direct (hfresh : gateway.Fresh) (calls : List Call)
    : let m := runCalls gateway {} calls
      (∀ key id : Int, m.claims[id]? = some key ↔ m.OnDirect key id) ∧
        (∀ key id : Int, m.workers[id]? = some key ↔ m.OnDirect key id) ∧
        ∀ (key : Int) (c : UsbController), m.controllers[key]? = some c → c.phase = .Direct →
          ∃ id, c.syntheticId = some id := by
  have h := (Sound.empty gateway).runCalls hfresh calls
  refine ⟨?_, ?_, h.named⟩
  . intro key id
    exact h.claims id key
  . intro key id
    rw [h.workers]
    exact h.claims id key

def alwaysClaims : Gateway where
  claim n := .success (-(n + 1))
  isKnownFastLaneModel _ _ := true

theorem fresh_alwaysClaims : alwaysClaims.Fresh := by
  intro m n id hm hn
  have hid := hm.trans hn.symm
  simp only [alwaysClaims, ClaimResult.success.injEq] at hid
  omega

theorem claims_of_direct_reclaimed
    : (runCalls alwaysClaims {}
        [.reconcile { devices := [{ vendorId := 0x54C, productId := 0xCE6 }] },
          .setPathChoice [] 0x54C 0xCE6 .Standard, .fireTimeout 0x54C 0xCE6,
          .setPathChoice [] 0x54C 0xCE6 .Direct]).claims[(-2 : Int)]? =
      some (vpKey 0x54C 0xCE6) := by
  apply ((claims_of_direct fresh_alwaysClaims _).1 _ _).mpr
  have hdirect : (runCalls alwaysClaims {}
      [.reconcile { devices := [{ vendorId := 0x54C, productId := 0xCE6 }] },
        .setPathChoice [] 0x54C 0xCE6 .Standard, .fireTimeout 0x54C 0xCE6,
        .setPathChoice [] 0x54C 0xCE6 .Direct]).controllers[vpKey 0x54C 0xCE6]?.any
      (fun c => c.phase = .Direct ∧ c.syntheticId = some (-2)) = true := by
    decide +kernel
  obtain ⟨c, hc, hphase⟩ := Option.any_eq_true _ _ |>.mp hdirect
  exact ⟨c, hc, of_decide_eq_true hphase⟩

end Calls

end UsbGamepadManager

end Usb
