import Dish.Lib.Transition
import Dish.Update.Lemmas.Marker
import Dish.Update.Promote

/-!
This module contains the proof that the marker is the commit record of a promote.
-/

open Transition

namespace Update

variable {phase : PromotePhase}

variable {digest : List UInt8 → List UInt8} {version : String} {s s' : Staging}
  {files : StagedFiles} {call : PromoteCall} {bytes : List UInt8}

section Digest

theorem mem_toHex {hash : List UInt8} {ch : Char} (h : ch ∈ (Wire.toHex hash).toList)
    : ch ∈ Wire.hexChars := by
  have hget : ∀ i, Wire.hexChars.getD i '0' ∈ Wire.hexChars := by
    intro i
    rw [List.getD_eq_getElem?_getD]
    cases hi : Wire.hexChars[i]? with
    | none => decide
    | some ch => exact List.mem_of_getElem? hi
  rw [Wire.toHex, String.toList_ofList, List.mem_flatMap] at h
  obtain ⟨b, _, hch⟩ := h
  rw [List.mem_cons, List.mem_singleton] at hch
  rcases hch with rfl | rfl
  . apply hget
  . apply hget

theorem toLower_toHex (hash : List UInt8)
    : (Wire.toHex hash).toList.map Char.toLower = (Wire.toHex hash).toList := by
  have hlower : ∀ ch ∈ Wire.hexChars, (ch.toLower == ch) = true :=
    List.all_eq_true.mp (by decide)
  rw [List.map_congr_left fun ch hch => eq_of_beq (hlower ch (mem_toHex hch)), List.map_id']

theorem plain_toHex (hash : List UInt8) : Plain (Wire.toHex hash).toList := by
  have hplain : Plain Wire.hexChars := by decide
  intro ch hch
  exact hplain ch (mem_toHex hch)

end Digest

structure Verified (digest : List UInt8 → List UInt8) (version : String) (call : PromoteCall)
    (bytes : List UInt8) : Prop where
  version : isValidVersion version = true
  size : (bytes.length : Int) = call.size
  digest : sameDigest (Staging.sha256OfFile digest bytes) call.sha256 = true

theorem Verified.sha256 (h : Verified digest version call bytes)
    : String.ofList (call.sha256.toList.map Char.toLower) = Staging.sha256OfFile digest bytes := by
  have hsame := of_decide_eq_true h.digest
  rw [Staging.sha256OfFile, toLower_toHex] at hsame
  rw [← hsame, String.ofList_toList]
  rfl

theorem Verified.parse_writtenText (h : Verified digest version call bytes)
    : parseReadyMarker (Staging.writtenText version call)
      = StagingStore.writtenMarker version call.sha256 call.size := by
  have hlength : call.sha256.length = (Staging.sha256OfFile digest bytes).length := by
    rw [← h.sha256, String.length_ofList, List.length_map, String.length_toList]
  have hlt := call.size_lt
  have hparse := parse_serialize bytes.length h.version (plain_toHex (digest bytes))
    (by rw [← h.size] at hlt; omega) call.stagedUtc_plain
  unfold Staging.writtenText StagingStore.writtenMarker
  rw [h.sha256, ← h.size, hlength]
  rw [Staging.sha256OfFile, hparse]
  simp

def Committed (digest : List UInt8 → List UInt8) (version : String) (files : StagedFiles) : Prop :=
  ∀ text, files.readyMarker = some text → ∃ call bytes, Verified digest version call bytes ∧
    text = Staging.writtenText version call ∧ ∀ exe, files.setupExe = some exe → exe = bytes

theorem Committed.remove (h : Committed digest version files) (file : StagedFile)
    : Committed digest version (files.remove file) := by
  intro text htext
  cases file with
  | setupExe =>
    obtain ⟨call, bytes, hverified, hwritten, _⟩ := h text htext
    exact ⟨call, bytes, hverified, hwritten, by simp [StagedFiles.remove]⟩
  | readyMarker => cases htext
  | manifestSnapshot => exact h text htext
  | readyMarkerTmp => exact h text htext

theorem committed_of_no_marker (h : files.readyMarker = none) : Committed digest version files := by
  intro text htext
  rw [h] at htext
  cases htext

def PhaseHolds (digest : List UInt8 → List UInt8) (version : String) (s : Staging) (call : PromoteCall)
    : PromotePhase → Prop
  | .verify | .undo => True
  | .clear => ∃ bytes, s.part = some bytes ∧ Verified digest version call bytes
  | .mkpath => s.dir = none ∧ ∃ bytes, s.part = some bytes ∧ Verified digest version call bytes
  | .rename => s.dir = some {} ∧ ∃ bytes, s.part = some bytes ∧ Verified digest version call bytes
  | .snapshot | .writeTmp => ∃ files bytes, s.dir = some files ∧ files.readyMarker = none ∧
    files.setupExe = some bytes ∧ Verified digest version call bytes
  | .commit => ∃ files bytes, s.dir = some files ∧ files.readyMarker = none ∧
    files.setupExe = some bytes ∧ Verified digest version call bytes ∧
    files.readyMarkerTmp = some (Staging.writtenText version call)

structure Durable (digest : List UInt8 → List UInt8) (version : String) (s : Staging) : Prop where
  committed : ∀ files, s.dir = some files → Committed digest version files
  phase : ∀ call phase, s.promote = some (call, phase) → PhaseHolds digest version s call phase

section Step

theorem durable_of_idle (hcommitted : ∀ files, s.dir = some files → Committed digest version files)
    (hidle : s.promote = none)
    : Durable digest version s where
  committed := hcommitted
  phase := by
    intro call phase hpromote
    rw [hidle] at hpromote
    cases hpromote

theorem durable_of_phase (hcommitted : ∀ files, s.dir = some files → Committed digest version files)
    (hpromote : s.promote = some (call, phase)) (hphase : PhaseHolds digest version s call phase)
    : Durable digest version s where
  committed := hcommitted
  phase := by
    intro call' phase' heq
    rw [hpromote] at heq
    cases heq
    exact hphase

theorem Durable.finish (h : Durable digest version s) : Durable digest version s.finish :=
  durable_of_idle h.committed rfl

theorem Durable.advance (h : Durable digest version s)
    (hphase : PhaseHolds digest version (s.advance call phase) call phase)
    : Durable digest version (s.advance call phase) :=
  durable_of_phase h.committed rfl hphase

theorem Durable.verify (h : Durable digest version s) (partRemoved : Bool)
    : Durable digest version (s.verify digest version call partRemoved) := by
  unfold Staging.verify
  split
  . exact h.finish
  . next hversion =>
    split
    . exact h.finish
    . next bytes hpart =>
      split
      . exact h.finish
      . next hsize =>
        split
        . exact durable_of_idle h.committed rfl
        . next hdigest =>
          apply h.advance
          exact ⟨bytes, hpart, by simpa using hversion, by simpa using hsize, by simpa using hdigest⟩

theorem durable_of_cleared (hdir : s.dir = none)
    (hpart : phase = .clear → ∃ bytes, s.part = some bytes ∧ Verified digest version call bytes)
    (hstep : s.cleared call phase = some s')
    : Durable digest version s' := by
  have hcommitted : ∀ files, s.dir = some files → Committed digest version files := by
    intro files heq
    rw [hdir] at heq
    cases heq
  cases phase with
  | clear =>
    cases hstep
    exact durable_of_phase hcommitted rfl ⟨hdir, hpart rfl⟩
  | undo =>
    cases hstep
    exact durable_of_idle hcommitted rfl
  | _ => cases hstep

theorem Durable.step (h : Durable digest version s) (e : StagingEvent)
    (hstep : s.step digest version e = some s')
    : Durable digest version s' := by
  unfold Staging.step at hstep
  cases e with
  | crash =>
    cases hstep
    exact h.finish
  | download bytes =>
    obtain ⟨hidle, hstep⟩ := Option.ite_none_right_eq_some.mp hstep
    cases hstep
    exact durable_of_idle h.committed (Option.isNone_iff_eq_none.mp hidle)
  | promote call =>
    obtain ⟨_, hstep⟩ := Option.ite_none_right_eq_some.mp hstep
    cases hstep
    exact h.advance trivial
  | verify partRemoved =>
    dsimp only at hstep
    split at hstep
    . cases hstep
      exact h.verify partRemoved
    . cases hstep
  | removeFile file =>
    dsimp only at hstep
    split at hstep
    . next call files hpromote hdir =>
      cases hstep
      have hphase := h.phase _ _ hpromote
      refine durable_of_phase ?_ hpromote hphase
      intro files' heq
      cases heq
      exact (h.committed files hdir).remove file
    . next call files hpromote hdir =>
      cases hstep
      refine durable_of_phase ?_ hpromote trivial
      intro files' heq
      cases heq
      exact (h.committed files hdir).remove file
    . cases hstep
  | removeDir =>
    dsimp only at hstep
    split at hstep
    . next call phase files hpromote hdir =>
      obtain ⟨_, hstep⟩ := Option.ite_none_right_eq_some.mp hstep
      apply durable_of_cleared rfl _ hstep
      rintro rfl
      exact h.phase _ _ hpromote
    . cases hstep
  | absent =>
    dsimp only at hstep
    split at hstep
    . next call phase hpromote hdir =>
      apply durable_of_cleared hdir _ hstep
      rintro rfl
      exact h.phase _ _ hpromote
    . cases hstep
  | giveUp =>
    dsimp only at hstep
    split at hstep
    . cases hstep
      exact h.finish
    . cases hstep
      exact h.finish
    . cases hstep
  | mkpath ok =>
    dsimp only at hstep
    split at hstep
    . next call hpromote =>
      obtain ⟨hdir, hpart⟩ := h.phase _ _ hpromote
      cases ok with
      | false =>
        cases hstep
        exact h.finish
      | true =>
        cases hstep
        refine durable_of_phase ?_ rfl ⟨by simp [hdir], hpart⟩
        intro files heq
        cases heq
        rw [hdir]
        exact committed_of_no_marker rfl
    . cases hstep
  | rename ok =>
    dsimp only at hstep
    split at hstep
    . next call files hpromote hdir =>
      obtain ⟨hempty, bytes, hpart, hverified⟩ := h.phase _ _ hpromote
      cases ok with
      | false =>
        cases hstep
        exact h.advance trivial
      | true =>
        cases hstep
        have hmarker : files.readyMarker = none := by
          rw [hdir] at hempty
          cases hempty
          rfl
        refine durable_of_phase ?_ rfl ⟨_, bytes, rfl, hmarker, hpart, hverified⟩
        intro files' heq
        cases heq
        exact committed_of_no_marker hmarker
    . cases hstep
  | snapshot left =>
    dsimp only at hstep
    split at hstep
    . next call files hpromote hdir =>
      obtain ⟨files', bytes, hdir', hmarker, hexe, hverified⟩ := h.phase _ _ hpromote
      rw [hdir] at hdir'
      cases hdir'
      split at hstep
      . cases hstep
        exact h.advance ⟨files, bytes, hdir, hmarker, hexe, hverified⟩
      . cases hstep
        refine durable_of_phase ?_ rfl ⟨_, bytes, rfl, hmarker, hexe, hverified⟩
        intro files' heq
        cases heq
        exact committed_of_no_marker hmarker
    . cases hstep
  | writeTmp ok left =>
    dsimp only at hstep
    split at hstep
    . next call files hpromote hdir =>
      obtain ⟨files', bytes, hdir', hmarker, hexe, hverified⟩ := h.phase _ _ hpromote
      rw [hdir] at hdir'
      cases hdir'
      have hcommitted : ∀ tmp, Committed digest version { files with readyMarkerTmp := tmp } :=
        fun _ => committed_of_no_marker hmarker
      cases ok with
      | false =>
        cases hstep
        refine durable_of_phase ?_ rfl trivial
        intro files' heq
        cases heq
        exact hcommitted left
      | true =>
        cases hstep
        refine durable_of_phase ?_ rfl ⟨_, bytes, rfl, hmarker, hexe, hverified, rfl⟩
        intro files' heq
        cases heq
        exact hcommitted _
    . cases hstep
  | commit ok =>
    dsimp only at hstep
    split at hstep
    . next call files hpromote hdir =>
      obtain ⟨files', bytes, hdir', hmarker, hexe, hverified, htmp⟩ := h.phase _ _ hpromote
      rw [hdir] at hdir'
      cases hdir'
      cases ok with
      | false =>
        cases hstep
        exact h.advance trivial
      | true =>
        cases hstep
        refine durable_of_idle ?_ rfl
        intro files' heq text htext
        cases heq
        -- the marker is the text that was written last, and the installer is the verified one
        refine ⟨call, bytes, hverified, Option.some.inj (htext.symm.trans htmp), ?_⟩
        intro exe hother
        exact Option.some.inj (hother.symm.trans hexe)
    . cases hstep

end Step

theorem durable_of_run {es : List StagingEvent}
    (hrun : Transition.run (Staging.step digest version) {} es = some s)
    : Durable digest version s := by
  apply invariant_of_run _ _ hrun
  . intro s e s' hs hstep
    exact hs.step e hstep
  . exact durable_of_idle nofun rfl

theorem accepted_only_if_complete (digest : List UInt8 → List UInt8) (version : String)
    (es : List StagingEvent) (s : Staging)
    (hrun : Transition.run (Staging.step digest version) {} es = some s)
    : ∀ files staged, s.dir = some files → readStagedDir (files.toReadyDir version) = some staged →
        files.setupExe = some staged.exe ∧ (staged.exe.length : Int) = staged.size ∧
        Staging.sha256OfFile digest staged.exe = staged.sha256 ∧
        ∃ text, files.readyMarker = some text ∧ (parseReadyMarker text).sha256 = staged.sha256 := by
  intro files staged hdir hread
  have hreads := readStagedDir_eq_some hread
  have hsha256 := hreads.sha256
  have hvalid := hreads.valid
  unfold StagedFiles.toReadyDir at hvalid hsha256
  cases hmarker : files.readyMarker with
  | none =>
    rw [hmarker] at hvalid
    cases hvalid
  | some text =>
    obtain ⟨call, bytes, hverified, htext, hexe⟩ :=
      (durable_of_run hrun).committed files hdir text hmarker
    rw [hmarker] at hsha256
    have hwritten : staged.sha256 = Staging.sha256OfFile digest bytes := by
      rw [hsha256, Option.map_some, Option.getD_some, htext, hverified.parse_writtenText]
      exact hverified.sha256
    refine ⟨hreads.exe, hreads.complete.trans hreads.size.symm, ?_, text, rfl, hsha256.symm⟩
    rw [hexe staged.exe hreads.exe, hwritten]

section Interrupted

def interruptedDigest (bytes : List UInt8) : List UInt8 :=
  List.replicate 32 (.ofNat bytes.length)

def interruptedCall (size : Int) (sha256 : String) (h : size < 9223372036854775808) : PromoteCall where
  sha256 := sha256
  size := size
  manifestBytes := [0x7B, 0x7D]
  stagedUtc := "2026-01-01T00:00:00Z".toList
  size_lt := h
  stagedUtc_plain := show Plain _ by decide

def interruptedRun : List StagingEvent :=
  [.download [1, 2, 3], .promote (interruptedCall 3 (Wire.toHex (List.replicate 32 3)) (by decide)),
    .verify true, .absent, .mkpath true, .rename true, .snapshot (some [0x7B, 0x7D]),
    .writeTmp true none, .commit true, .download [4, 5],
    .promote (interruptedCall 2 (Wire.toHex (List.replicate 32 2)) (by decide)), .verify true,
    .removeFile .manifestSnapshot, .crash]

theorem accepted_only_if_complete_interrupted
    : ∃ s files staged, Transition.run (Staging.step interruptedDigest "0.2.0") {} interruptedRun = some s ∧
        s.dir = some files ∧ readStagedDir (files.toReadyDir "0.2.0") = some staged ∧
        Staging.sha256OfFile interruptedDigest staged.exe = staged.sha256 := by
  have hany : (Transition.run (Staging.step interruptedDigest "0.2.0") {} interruptedRun).any (fun s =>
      (s.dir.bind fun files => readStagedDir (files.toReadyDir "0.2.0")).isSome) = true := by
    decide +kernel
  obtain ⟨s, hrun, hsome⟩ := exists_run_of_any hany
  obtain ⟨staged, hstaged⟩ := Option.isSome_iff_exists.mp hsome
  obtain ⟨files, hdir, hread⟩ := Option.bind_eq_some_iff.mp hstaged
  obtain ⟨_, _, hsha256, _⟩ := accepted_only_if_complete interruptedDigest "0.2.0" interruptedRun s hrun
    files staged hdir hread
  exact ⟨s, files, staged, hrun, hdir, hread, hsha256⟩

end Interrupted

end Update
