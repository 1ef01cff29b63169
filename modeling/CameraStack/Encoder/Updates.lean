/-
# Updates of the tuning that overlap

Two operators may save at once: each update reads the file for itself and writes it later, with
no lock around both.  What one writes may so rest on a file that is no longer there.

The file is never a mixture for all that, since an update sets all of its keys, and the keys
that no update sets are the same in every file that was read.
-/

import CameraStack.Encoder.ColorConfig
import CameraStack.Lib.Machine
import Mathlib.Logic.Function.Basic

namespace CameraStack.Encoder

open CameraStack.Lib

/-- Where an update stands: it has read the file, and holds what it is to write. -/
inductive Update
  | idle
  | holding (cfg : CameraStreamConfig) (env : PyDict Text)

/-- The file, the updates under way and the configuration that was written last. -/
structure Tuning (U : Type) where
  file : Option Text
  updates : U → Update
  last : Option CameraStreamConfig

/-- An update begins, writes the file or is given up. -/
inductive Event (U : Type)
  | read (u : U) (cfg : CameraStreamConfig)
  | write (u : U)
  | fail (u : U)

/-- No update is under way. -/
def Tuning.start {U : Type} (file : Option Text) : Tuning U := ⟨file, fun _ => .idle, none⟩

section Runs

variable {U : Type} [DecidableEq U]

/-- `write_color_config` up to the lock. -/
def Update.begun (file : Option Text) (cfg : CameraStreamConfig) : Update :=
  match tuned cfg (readEnv file) with
  | some env => .holding cfg env
  | none => .idle

/-- The tuning under a list of events. -/
def tuning : Machine (Tuning U) (Event U) Empty where
  step s
    | .read u cfg =>
        match s.updates u with
        | .idle => ({ s with updates := Function.update s.updates u (.begun s.file cfg) }, [])
        | .holding _ _ => (s, [])
    | .write u =>
        match s.updates u with
        | .idle => (s, [])
        | .holding cfg env =>
            ({ file := some (writeEnvAtomic env)
               updates := Function.update s.updates u .idle
               last := some cfg }, [])
    | .fail u => ({ s with updates := Function.update s.updates u .idle }, [])

/-- The reader leaves the texts of every configuration as they are. -/
def Event.Clean : Event U → Prop
  | .read _ cfg => Kept cfg.preset ∧ Kept cfg.tune
  | .write _ | .fail _ => True

/-- Two files agree on the keys that no update sets and whose value in the first the reader leaves
as it is. -/
def SameOthers (first second : Option Text) : Prop :=
  ∀ key ∉ tuningKeys, (∀ v, (readEnv first).get? key = some v → Kept v) →
    (readEnv second).get? key = (readEnv first).get? key

/-- An update keeps the other keys, though it read an older file. -/
theorem SameOthers.write {first seen : Option Text} {cfg : CameraStreamConfig} {env : PyDict Text}
    (h : SameOthers first seen) (hpreset : Kept cfg.preset) (htune : Kept cfg.tune)
    (htuned : tuned cfg (readEnv seen) = some env) :
    SameOthers first (some (writeEnvAtomic env)) := by
  intro key hkey hkept
  obtain ⟨-, -, hother⟩ := of_tuned htuned
  rw [get?_readEnv_write hpreset.1 htune.1 htuned, hother key hkey, h key hkey hkept]
  cases hvalue : (readEnv first).get? key with
  | none => rfl
  | some v => exact congrArg some (hkept v hvalue).2

/-- What an update holds is the tuning of a file that agrees with the first on the other keys. -/
def Update.Sound (first : Option Text) : Update → Prop
  | .idle => True
  | .holding cfg env =>
      Kept cfg.preset ∧ Kept cfg.tune ∧
        ∃ seen, SameOthers first seen ∧ tuned cfg (readEnv seen) = some env

/-- What holds of the tuning, from the file it began with. -/
structure Sound (first : Option Text) (s : Tuning U) : Prop where
  whole : ∀ cfg, s.last = some cfg → readColorConfig s.file = .ok cfg
  others : SameOthers first s.file
  held : ∀ u, (s.updates u).Sound first

theorem sound_update {first : Option Text} {s : Tuning U} {u : U} {update : Update}
    (h : Sound first s) (hupdate : update.Sound first) :
    ∀ v, (Function.update s.updates u update v).Sound first := by
  intro v
  rw [Function.update_apply]
  split
  · exact hupdate
  · exact h.held v

theorem sound_begun {first file : Option Text} {cfg : CameraStreamConfig}
    (hothers : SameOthers first file) (hpreset : Kept cfg.preset) (htune : Kept cfg.tune) :
    (Update.begun file cfg).Sound first := by
  rw [Update.begun]
  cases htuned : tuned cfg (readEnv file) with
  | none => trivial
  | some env => exact ⟨hpreset, htune, file, hothers, htuned⟩

theorem sound_next {first : Option Text} (s : Tuning U) (e : Event U) (h : Sound first s)
    (hclean : e.Clean) : Sound first (tuning.next s e) := by
  cases e with
  | read u cfg =>
      rw [Machine.next, tuning]
      dsimp only
      cases hu : s.updates u with
      | holding => exact h
      | idle => exact ⟨h.whole, h.others, sound_update h (sound_begun h.others hclean.1 hclean.2)⟩
  | write u =>
      rw [Machine.next, tuning]
      dsimp only
      have hheld := h.held u
      cases hu : s.updates u with
      | idle => exact h
      | holding cfg env =>
          rw [hu] at hheld
          obtain ⟨hpreset, htune, seen, hothers, htuned⟩ := hheld
          constructor
          · rintro _ ⟨⟩
            have hwritten : writeColorConfig cfg seen = some (writeEnvAtomic env) := by
              rw [writeColorConfig, htuned]
              rfl
            exact (readColorConfig_writeColorConfig_iff cfg seen _ hwritten).mpr ⟨hpreset, htune⟩
          · exact hothers.write hpreset htune htuned
          · exact sound_update h trivial
  | fail u => exact ⟨h.whole, h.others, sound_update h trivial⟩

/-- However updates overlap, the file is read as the configuration that was written last, and a key
that no update sets keeps a value that the reader leaves as it is. -/
theorem overlapping_updates (file : Option Text) (events : List (Event U))
    (hclean : ∀ e ∈ events, e.Clean) :
    (∀ cfg, (tuning.run (Tuning.start file) events).last = some cfg →
        readColorConfig (tuning.run (Tuning.start file) events).file = .ok cfg) ∧
      SameOthers file (tuning.run (Tuning.start file) events).file := by
  have hstart : Sound file (Tuning.start file : Tuning U) := by
    constructor
    · rintro _ ⟨⟩
    · exact fun _ _ _ => rfl
    · exact fun _ => trivial
  have hsound := tuning.run_invariant sound_next
    (tuning.along_of_forall (fun e he _ => hclean e he) _) hstart
  exact ⟨hsound.whole, hsound.others⟩

/-- Two updates that have both read the file before either writes it. -/
theorem overlapping_updates_sample :
    let cfg : CameraStreamConfig := { smallConfig with preset := "slow".toList, passes := by decide }
    let other : CameraStreamConfig := { cfg with gop := none, passes := by decide }
    let events : List (Event Bool) :=
      [.read true cfg, .read false other, .write false, .write true]
    let file := some "# by hand\nEXTRA=\"on\"\n".toList
    (∀ last, (tuning.run (Tuning.start file) events).last = some last →
        readColorConfig (tuning.run (Tuning.start file) events).file = .ok last) ∧
      SameOthers file (tuning.run (Tuning.start file) events).file := by
  intro cfg other events file
  apply overlapping_updates
  intro e he
  simp only [events, List.mem_cons, List.not_mem_nil, or_false] at he
  have hkept : Kept cfg.preset ∧ Kept cfg.tune := by decide
  rcases he with rfl | rfl | rfl | rfl
  · exact hkept
  · exact hkept
  · trivial
  · trivial

end Runs

end CameraStack.Encoder
