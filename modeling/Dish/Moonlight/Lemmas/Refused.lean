import Dish.Moonlight.Lemmas.Routed

/-!
This module contains what a bind that is refused leaves behind.
-/

open Std

namespace Moonlight

namespace MoonlightManager

variable {m : MoonlightManager} {slotId hostId : String}

def HasRoom (m : MoonlightManager) (slotId hostId : String) : Prop :=
  m.routes[slotId]? = none ∨ (m.padSet hostId).lowestFree ≠ none

theorem calls_ensureSession (m : MoonlightManager) (hostId : String) (identity : Bool)
    : (m.ensureSession hostId identity).2.calls = m.calls := by
  unfold ensureSession
  split
  . rfl
  . split <;> rfl

theorem lowestFree_ne_none {p : PadSlots}
    : p.lowestFree ≠ none ↔ ∃ n < kMaxPads, ∀ slotId, p.numberFor slotId ≠ some n := by
  rw [PadSlots.lowestFree, ne_eq, List.find?_eq_none]
  simp [PadSlots.numberFor_eq_some, PadSlots.taken]

theorem Agrees.lowestFree_unbindSlot (h : m.Agrees) (slotId : String)
    (hfree : (m.padSet hostId).lowestFree ≠ none)
    : ((m.unbindSlot slotId).padSet hostId).lowestFree ≠ none := by
  rw [lowestFree_ne_none] at hfree ⊢
  obtain ⟨n, hn, hunused⟩ := hfree
  refine ⟨n, hn, ?_⟩
  intro slotId'
  rw [h.numberFor_unbindSlot]
  split
  . simp
  . exact hunused slotId'

theorem Agrees.assign_unbindSlot (h : m.Agrees) (hfree : (m.padSet hostId).lowestFree ≠ none)
    : ((m.unbindSlot slotId).padSet hostId).assign slotId ≠ none := by
  have hslot : ((m.unbindSlot slotId).padSet hostId).numberFor slotId = none := by
    rw [h.numberFor_unbindSlot, if_pos rfl]
  have hfree' := h.lowestFree_unbindSlot slotId hfree
  unfold PadSlots.assign
  rw [dif_pos hslot]
  split
  . simp
  . next hnone => exact absurd hnone hfree'

theorem Agrees.bindFresh_refused (h : m.Agrees) (hroom : m.HasRoom slotId hostId) {session : Nat}
    {ask : BindRequest}
    (hrefused : ((m.unbindSlot slotId).bindFresh slotId hostId session ask).1 ≠ .Bound)
    : ((m.unbindSlot slotId).bindFresh slotId hostId session ask).2 =
        { m with padSlots := m.padSlots.insert hostId (m.padSet hostId) } := by
  rcases bindFresh_cases (m := m.unbindSlot slotId) slotId hostId session ask with
    ⟨hassign, hfull⟩ | ⟨n, p, m', -, hbound, -⟩
  . rcases hroom with hnone | hfree
    . rw [hfull, unbindSlot_of_none hnone]
    . exact absurd hassign (h.assign_unbindSlot hfree)
  . rw [hbound] at hrefused
    exact absurd rfl hrefused

structure Untouched (m m' : MoonlightManager) : Prop where
  routes : m'.routes = m.routes
  numbers : ∀ hostId slotId,
    (m'.padSet hostId).numberFor slotId = (m.padSet hostId).numberFor slotId
  calls : m'.calls = m.calls

theorem Sound.bindSlot_refused (h : m.Sound) (hroom : m.HasRoom slotId hostId) {ask : BindRequest}
    (hrefused : (m.bindSlot slotId hostId ask).1 ≠ .Bound)
    : Untouched m (m.bindSlot slotId hostId ask).2 := by
  obtain ⟨hsound, hroutes, hpadSlots, -⟩ := h.ensureSession hostId ask.identity
  have hcalls := m.calls_ensureSession hostId ask.identity
  have hpadSet : (m.ensureSession hostId ask.identity).2.padSet = m.padSet := by
    funext hostId'
    simp only [padSet, hpadSlots]
  unfold MoonlightManager.bindSlot at hrefused ⊢
  split
  . exact ⟨rfl, fun _ _ => rfl, rfl⟩
  . next hknown =>
    rw [if_neg hknown] at hrefused
    generalize m.ensureSession hostId ask.identity = ensured at *
    obtain ⟨session, m₁⟩ := ensured
    dsimp only at hsound hroutes hpadSlots hcalls hpadSet
    cases session with
    | none => exact ⟨hroutes, fun _ _ => by rw [hpadSet], hcalls⟩
    | some session =>
      dsimp only at hrefused ⊢
      cases hheld : m₁.numberOnSession slotId session with
      | some held =>
        rw [hheld] at hrefused
        exact absurd rfl hrefused
      | none =>
        rw [hheld] at hrefused
        dsimp only at hrefused ⊢
        have hroom₁ : m₁.HasRoom slotId hostId := by
          unfold HasRoom
          rw [hroutes, hpadSet]
          exact hroom
        rw [hsound.bindFresh_refused hroom₁ hrefused]
        refine ⟨hroutes, ?_, hcalls⟩
        intro hostId' slotId'
        rw [padSet_of_insert rfl, ← hpadSet]
        split
        next heq => rw [heq]
        next => rfl

theorem refused_bind_untouched (acts : List Act) (slotId hostId : String) (ask : BindRequest)
    (hroom : (run {} acts).HasRoom slotId hostId)
    (hrefused : ((run {} acts).bindSlot slotId hostId ask).1 ≠ .Bound)
    : Untouched (run {} acts) ((run {} acts).bindSlot slotId hostId ask).2 :=
  (sound_run acts).bindSlot_refused hroom hrefused

def plainAsk : BindRequest where
  known := true
  identity := true
  arrival := ⟨0x01#8, 0x00#8⟩
  touchReaches := false
  userMotionOn := true
  pickRemoved := false

def denFull : List Act :=
  ["sdl:1", "sdl:2", "sdl:3", "sdl:4"].map fun slotId => .bindSlot slotId "den" plainAsk

theorem refused_bind_untouched_den
    : (run {} denFull).HasRoom "sdl:5" "den" ∧
        ((run {} denFull).bindSlot "sdl:5" "den" plainAsk).1 = .HostFull ∧
        Untouched (run {} denFull) ((run {} denFull).bindSlot "sdl:5" "den" plainAsk).2 := by
  have hroom : (run {} denFull).HasRoom "sdl:5" "den" := .inl (by decide +kernel)
  have hfull : ((run {} denFull).bindSlot "sdl:5" "den" plainAsk).1 = .HostFull := by
    decide +kernel
  have hrefused : ((run {} denFull).bindSlot "sdl:5" "den" plainAsk).1 ≠ .Bound := by
    rw [hfull]
    simp
  exact ⟨hroom, hfull, refused_bind_untouched denFull "sdl:5" "den" plainAsk hroom hrefused⟩

theorem moved_pad_dropped
    : let m := run {} (denFull ++ [.bindSlot "sdl:5" "attic" plainAsk])
      let (outcome, m') := m.bindSlot "sdl:5" "den" plainAsk
      outcome = .HostFull ∧ m.assignment "sdl:5" = some ("attic", 0) ∧
      m'.assignment "sdl:5" = none ∧
      m'.calls = m.calls ++
        [(1, .sendControllerState { controllerNumber := 0, activeGamepadMask := 0 }),
          (1, .forgetControllerArrival 0), (1, .quit)] := by
  decide +kernel

end MoonlightManager

end Moonlight
