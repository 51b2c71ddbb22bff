import Dish.Manager.Lemmas.Confirmed
import Dish.Manager.Lemmas.Down

/-!
This module contains the requests a step of the manager sends and the numbers it gives them.
-/

open Std Models Reducer Wire Store Connection

namespace Wifi

variable {call : Call}

namespace Manager

variable {sodium : Sodium} {m m' m'' : Manager} {x y : String} {powers : Set Power}

section Adds

def Adds (P : Call → Prop) (m m' : Manager) : Prop :=
  ∀ (rid : Nat) (r : Request), m'.requests[rid]? = some r →
    (∃ r₀, m.requests[rid]? = some r₀ ∧ r₀.call = r.call) ∨ P r.call

namespace Adds

variable {P Q : Call → Prop}

theorem refl (m : Manager) : Adds P m m := by
  intro rid r hr
  exact .inl ⟨r, hr, rfl⟩

theorem mono (h : Adds P m m') (hPQ : ∀ {call}, P call → Q call) : Adds Q m m' := by
  intro rid r hr
  rcases h rid r hr with hold | hnew
  . exact .inl hold
  . exact .inr (hPQ hnew)

theorem trans (h : Adds P m m') (h' : Adds P m' m'') : Adds P m m'' := by
  intro rid r hr
  rcases h' rid r hr with ⟨r₁, hr₁, hcall₁⟩ | hnew
  . rcases h rid r₁ hr₁ with ⟨r₀, hr₀, hcall₀⟩ | hnew
    . exact .inl ⟨r₀, hr₀, hcall₀.trans hcall₁⟩
    . exact .inr (hcall₁ ▸ hnew)
  . exact .inr hnew

theorem of_requests (h : m'.requests = m.requests) : Adds P m m' := by
  unfold Adds
  rw [h]
  exact refl m

theorem send (h : Adds P m m') (host : String) (port : Int) (hcall : P call)
    : Adds P m (m'.send host port call) := by
  intro rid r hr
  simp only [Manager.send, TreeMap.getElem?_insert] at hr
  split at hr
  . cases hr
    exact .inr hcall
  . exact h rid r hr

theorem erase (m : Manager) (rid : Nat)
    : Adds P m { m with requests := m.requests.erase rid } := by
  intro rid' r hr
  rw [TreeMap.getElem?_erase] at hr
  split at hr
  . cases hr
  . exact .inl ⟨r, hr, rfl⟩

end Adds

theorem requests_onEncrypted (m : Manager) (rid : Nat) (request : Request) (certDer : List UInt8)
    : ∃ r, (m.onEncrypted sodium rid request certDer).requests = m.requests.insert rid r ∧
        r.call = request.call := by
  unfold onEncrypted
  split
  . exact ⟨_, rfl, rfl⟩
  . dsimp only
    split
    . exact ⟨_, rfl, rfl⟩
    . exact ⟨_, rfl, rfl⟩
    . split
      . exact ⟨_, rfl, rfl⟩
      . exact ⟨_, rfl, rfl⟩

theorem adds_onEncrypted {P : Call → Prop} {rid : Nat} {request : Request} (certDer : List UInt8)
    (hrequest : m.requests[rid]? = some request)
    : Adds P m (m.onEncrypted sodium rid request certDer) := by
  intro rid' r hr
  obtain ⟨r', hrequests, hcall⟩ := m.requests_onEncrypted rid request certDer
  rw [hrequests, TreeMap.getElem?_insert] at hr
  split at hr
  next heq =>
    cases Std.compare_eq_iff_eq.mp heq
    cases hr
    exact .inl ⟨request, hrequest, hcall.symm⟩
  next => exact .inl ⟨r, hr, rfl⟩

end Adds

section Numbered

structure Numbered (m m' : Manager) : Prop where
  next : m.nextRequest ≤ m'.nextRequest
  below : (∀ (rid : Nat) (r : Request), m.requests[rid]? = some r → rid < m.nextRequest) →
    ∀ (rid : Nat) (r : Request), m'.requests[rid]? = some r → rid < m'.nextRequest
  old : ∀ (rid : Nat) (r : Request), m'.requests[rid]? = some r → rid < m.nextRequest →
    ∃ r₀, m.requests[rid]? = some r₀ ∧ r₀.call = r.call

theorem Numbered.trans (h : Numbered m m') (h' : Numbered m' m'') : Numbered m m'' where
  next := h.next.trans h'.next
  below := fun hbelow => h'.below (h.below hbelow)
  old := by
    intro rid r hr hlt
    obtain ⟨r₁, hr₁, hcall₁⟩ := h'.old rid r hr (hlt.trans_le h.next)
    obtain ⟨r₀, hr₀, hcall₀⟩ := h.old rid r₁ hr₁ hlt
    exact ⟨r₀, hr₀, hcall₀.trans hcall₁⟩

theorem Numbered.of_eq (hrequests : m'.requests = m.requests)
    (hnext : m'.nextRequest = m.nextRequest)
    : Numbered m m' where
  next := hnext.ge
  below := by
    rw [hrequests, hnext]
    exact fun hbelow => hbelow
  old := by
    intro rid r hr _
    rw [hrequests] at hr
    exact ⟨r, hr, rfl⟩

theorem numbered_send (m : Manager) (host : String) (port : Int) (call : Call)
    : Numbered m (m.send host port call) where
  next := Nat.le_succ _
  below := by
    intro hbelow rid r hr
    change rid < m.nextRequest + 1
    simp only [Manager.send, TreeMap.getElem?_insert] at hr
    split at hr
    next heq =>
      have := Std.compare_eq_iff_eq.mp heq
      omega
    next =>
      have := hbelow rid r hr
      omega
  old := by
    intro rid r hr hlt
    simp only [Manager.send, TreeMap.getElem?_insert] at hr
    split at hr
    next heq =>
      have := Std.compare_eq_iff_eq.mp heq
      omega
    next => exact ⟨r, hr, rfl⟩

theorem Touches.numbered (h : Touches powers y m m') : Numbered m m' := by
  induction h with
  | refl => exact .of_eq rfl rfl
  | send _ host port call _ _ ih => exact ih.trans (numbered_send _ host port call)
  | _ =>
    rename_i ih
    exact ⟨ih.next, ih.below, ih.old⟩

theorem numbered_erase (m : Manager) (rid : Nat)
    : Numbered m { m with requests := m.requests.erase rid } := by
  have hsub : ∀ (rid' : Nat) (r : Request), (m.requests.erase rid)[rid']? = some r →
      m.requests[rid']? = some r := by
    intro rid' r hr
    rw [TreeMap.getElem?_erase] at hr
    split at hr
    . cases hr
    . exact hr
  constructor
  . exact Nat.le_refl _
  . exact fun hbelow rid' r hr => hbelow rid' r (hsub rid' r hr)
  . exact fun rid' r hr _ => ⟨r, hsub rid' r hr, rfl⟩

theorem numbered_onEncrypted {rid : Nat} {request : Request} (certDer : List UInt8)
    (hrequest : m.requests[rid]? = some request)
    : Numbered m (m.onEncrypted sodium rid request certDer) where
  next := by rw [(sameBooks_onEncrypted ..).nextRequest]
  below := by
    intro hbelow rid' r hr
    obtain ⟨r', hrequests, _⟩ := m.requests_onEncrypted rid request certDer
    rw [(sameBooks_onEncrypted ..).nextRequest]
    rw [hrequests, TreeMap.getElem?_insert] at hr
    split at hr
    next heq =>
      cases Std.compare_eq_iff_eq.mp heq
      exact hbelow rid request hrequest
    next => exact hbelow rid' r hr
  old := by
    intro rid' r hr _
    have hadds : Adds (fun _ => False) m (m.onEncrypted sodium rid request certDer) :=
      adds_onEncrypted certDer hrequest
    exact (hadds rid' r hr).resolve_right False.elim

theorem respected_numbered : Respected Set.univ Numbered where
  refl := fun _ => .of_eq rfl rfl
  trans := Numbered.trans
  touches := Touches.numbered
  eraseRequest := numbered_erase
  eraseRetry := fun _ _ => .of_eq rfl rfl
  scanned := fun _ _ => .of_eq rfl rfl
  advance := fun _ _ => .of_eq rfl rfl
  encrypted := fun _ _ _ _ _ certDer hrequest => numbered_onEncrypted certDer hrequest

theorem numbered_step {e : Event} (hstep : m.step sodium e = some m') : Numbered m m' :=
  respected_numbered.step hstep fun _ _ => trivial

end Numbered

end Manager

end Wifi
