import Dish.Manager.Lemmas.Background

/-!
This module contains what attaching and detaching a slot leave in the pool.
-/

open Std Models Reducer Wire Store Connection

namespace Wifi

namespace Manager

variable {sodium : Sodium} {m : Manager} {x y : String}

@[simp]
theorem conn_syncSlot (m : Manager) (y slotId x : String)
    : (m.syncSlot sodium y slotId).conn x = m.conn x := by
  unfold syncSlot
  split
  . rfl
  . split
    . rfl
    . split
      . rfl
      . rfl

@[simp]
theorem conn_deleteSlot (m : Manager) (y : String) (ctrlIdx : Nat) (x : String)
    : (m.deleteSlot sodium y ctrlIdx).conn x = m.conn x := by
  unfold deleteSlot
  split
  . rfl
  . split
    . rfl
    . rfl

theorem conn_attachSlot_self (m : Manager) (x slotId : String) (features : SlotFeatures)
    : (m.attachSlot sodium x slotId features).conn x =
        (m.conn x).map fun c => (c.attachSlot slotId features).1 := by
  unfold attachSlot
  split
  . next hnone => simp [hnone]
  . next c hc =>
    dsimp only
    split
    . simp [hc]
    . simp [hc]

theorem conn_attachSlot_of_ne (m : Manager) (slotId : String) (features : SlotFeatures) (h : x ≠ y)
    : (m.attachSlot sodium y slotId features).conn x = m.conn x :=
  (((Touches.start Set.univ y m).attachSlot slotId features trivial).frame h).conn

theorem conn_detachSlot_self (m : Manager) (x slotId : String)
    : (m.detachSlot sodium x slotId).conn x = (m.conn x).map fun c => (c.detachSlot slotId).1 := by
  unfold detachSlot
  split
  . next hnone => simp [hnone]
  . next c hc =>
    dsimp only
    split
    . simp [hc]
    . simp [hc]

theorem conn_detachSlot_of_ne (m : Manager) (slotId : String) (h : x ≠ y)
    : (m.detachSlot sodium y slotId).conn x = m.conn x :=
  (((Touches.start Set.univ y m).detachSlot slotId trivial).frame h).conn

end Manager

end Wifi
